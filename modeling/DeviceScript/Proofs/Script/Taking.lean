import DeviceScript.Script.Grammar

/-!
# What a reading takes

`Takes reading tokens value follow` says that a reading takes exactly the given tokens and gives the
value, wherever these tokens stand in front of a token whose kind satisfies `follow`. The reading
may look at that token, but it leaves it where it is.

The rules follow the way readings are put together. Two readings one after the other take the
tokens of both, if what the second one takes begins with a kind that may follow the first
(`Takes.bind`); a reading that looks at the state goes on as it would for any state that stands in
front of its tokens (`Takes.inspect`).

Most readings have a bound on the number of their steps. `Within` says that every bound is enough
that exceeds the number of the tokens by a little.
-/

namespace DeviceScript.Script

variable {read rest : List Lexeme} {ending : Ending} {token tok : Token}

namespace Source

/-- Where the rest can be read on, so can what stands before it. -/
theorem fault?_append
    (sound : fault? ⟨rest, ending⟩ = none) : fault? ⟨read ++ rest, ending⟩ = none := by
  cases read with
  | nil => exact sound
  | cons => cases ending <;> rfl

end Source

/-- The kind of the first token, or the given kind if there is none. -/
def firstKind (ts : List Token) (next : TokenKind) : TokenKind :=
  match ts with
  | [] => next
  | tok :: _ => tok.kind

theorem kind_current_append {ts : List Token} (spelled : read.map (·.token) = ts) :
    (Source.current ⟨read ++ rest, ending⟩).kind =
      firstKind ts (Source.current ⟨rest, ending⟩).kind := by
  subst spelled
  cases read <;> rfl

namespace Reading

variable {β γ : Type}

/-- The reading takes exactly the given tokens and gives the value, wherever they stand in front
of a token of a kind that may follow. -/
def Takes (reading : Reading β) (ts : List Token) (v : β) (follow : TokenKind → Prop) :
    Prop :=
  ∀ (read rest : List Lexeme) (e : Ending) (title : String),
    read.map (·.token) = ts → Source.fault? ⟨rest, e⟩ = none →
      follow (Source.current ⟨rest, e⟩).kind →
        ∃ after, reading.run.run ⟨⟨read ++ rest, e⟩, title⟩ = (.ok v, ⟨⟨rest, e⟩, after⟩)

/-- Everything may follow. -/
def anything : TokenKind → Prop := fun _ => True

/-- The reader stands in front of the tokens, and after them comes what may follow. -/
def StandsAt (r : Reader) (ts : List Token) (follow : TokenKind → Prop) : Prop :=
  ts.length ≤ r.source.lexemes.length ∧
    match ts with
    | [] => follow r.source.current.kind
    | tok :: _ => r.source.current = tok

theorem standsAt_append {title : String} {ts : List Token} {follow : TokenKind → Prop}
    (spelled : read.map (·.token) = ts) (followed : follow (Source.current ⟨rest, ending⟩).kind) :
    StandsAt ⟨⟨read ++ rest, ending⟩, title⟩ ts follow := by
  subst spelled
  refine ⟨by simp, ?_⟩
  cases read with
  | nil => exact followed
  | cons => rfl

theorem run_bind (reading : Reading β) (f : β → Reading γ) (r : Reader) :
    (reading >>= f).run.run r =
      match reading.run.run r with
      | (.ok v, r') => (f v).run.run r'
      | (.error fault, r') => (.error fault, r') := by
  simp only [ExceptT.run_bind, StateT.run_bind]
  rcases reading.run.run r with ⟨_ | _, r'⟩ <;> rfl

namespace Takes

variable {reading : Reading β} {next : β → Reading γ} {ts others : List Token} {v : β}
  {res : γ} {follow follow' : TokenKind → Prop}

theorem pure (v : β) (follow : TokenKind → Prop) : Takes (pure v) [] v follow := by
  intro _ _ _ title spelled _ _
  rw [List.map_eq_nil_iff] at spelled
  subst spelled
  exact ⟨title, rfl⟩

theorem mono (takes : Takes reading ts v follow)
    (weaker : ∀ k, follow' k → follow k) : Takes reading ts v follow' :=
  fun read rest e title spelled sound followed =>
    takes read rest e title spelled sound (weaker _ followed)

theorem anywhere (takes : Takes reading ts v anything) : Takes reading ts v follow :=
  takes.mono fun _ _ => trivial

/-- Readings one after the other take the tokens of both. -/
theorem bind (first : Takes reading ts v follow) (second : Takes (next v) others res follow')
    (meets : ∀ k, follow' k → follow (firstKind others k)) :
    Takes (reading >>= next) (ts ++ others) res follow' := by
  intro _ rest e title spelled sound followed
  obtain ⟨front, back, rfl, inFront, inBack⟩ := List.map_eq_append_iff.mp spelled
  have met : follow (Source.current ⟨back ++ rest, e⟩).kind := by
    rw [kind_current_append inBack]
    exact meets _ followed
  obtain ⟨middle, reached⟩ :=
    first front (back ++ rest) e title inFront (Source.fault?_append sound) met
  obtain ⟨after, finished⟩ := second back rest e middle inBack sound followed
  refine ⟨after, ?_⟩
  rw [run_bind, List.append_assoc, reached]
  exact finished

theorem andThen (first : Takes reading ts v anything) (second : Takes (next v) others res follow) :
    Takes (reading >>= next) (ts ++ others) res follow :=
  first.bind second fun _ _ => trivial

theorem map (takes : Takes reading ts v follow) (f : β → γ) :
    Takes (reading >>= fun v => Pure.pure (f v)) ts (f v) follow := by
  rw [← List.append_nil ts]
  exact takes.bind (Takes.pure (f v) follow) fun _ followed => followed

/-- A reading that looks at the state goes on in the same way from every state that stands in
front of its tokens. -/
theorem inspect {f : Reader → Reading γ}
    (takes : ∀ r, StandsAt r ts follow → Takes (f r) ts res follow) :
    Takes (get >>= f) ts res follow := by
  intro read rest e title spelled sound followed
  exact takes _ (standsAt_append spelled followed) read rest e title spelled sound followed

theorem look {f : TokenKind → Reading γ} (takes : Takes (f tok.kind) (tok :: ts) res follow) :
    Takes (currentKind >>= f) (tok :: ts) res follow := by
  refine inspect (fun r stands => ?_)
  have same : r.source.current = tok := stands.2
  rw [← same] at takes
  rw [← same]
  exact takes

theorem lookAt {f : TokenKind → Reading γ} {k : TokenKind}
    (same : tok.kind = k) (takes : Takes (f k) (tok :: ts) res follow) :
    Takes (currentKind >>= f) (tok :: ts) res follow := by
  subst same
  exact look takes

theorem lookPast {f : TokenKind → Reading γ} (takes : ∀ k, follow k → Takes (f k) [] res follow) :
    Takes (currentKind >>= f) [] res follow :=
  inspect fun _ stands => takes _ stands.2

end Takes

/-! ## Single tokens -/

theorem takes_advance (tok : Token) : Takes advance [tok] () anything := by
  intro _ rest e title spelled sound _
  obtain ⟨lexeme, rfl, -⟩ := List.map_eq_singleton_iff.mp spelled
  have current : (get : Reading Reader).run.run ⟨⟨[lexeme] ++ rest, e⟩, title⟩ =
      (.ok ⟨⟨[lexeme] ++ rest, e⟩, title⟩, ⟨⟨[lexeme] ++ rest, e⟩, title⟩) := rfl
  have sound' : Source.fault? (Source.advance ⟨[lexeme] ++ rest, e⟩) = none := sound
  refine ⟨title, ?_⟩
  rw [advance, run_bind, current]
  simp only [sound']
  rfl

theorem takes_expect {wanted : TokenKind} (same : tok.kind = wanted) :
    Takes (expect wanted) [tok] () anything := by
  refine Takes.look ?_
  rw [if_pos same]
  exact takes_advance tok

theorem takes_take (tok : Token) : Takes take [tok] tok.text anything := by
  refine Takes.inspect (fun r stands => ?_)
  have same : r.source.current = tok := stands.2
  rw [← same]
  exact (takes_advance _).map fun _ => r.source.current.text

theorem takes_identifier (named : tok.kind = .identifier) :
    Takes identifier [tok] tok.text anything := by
  refine Takes.inspect (fun r stands => ?_)
  have same : r.source.current = tok := stands.2
  simp only [same]
  exact (takes_expect named).map fun _ => tok.text

/-- What stands in brackets is read whatever follows them. -/
theorem takes_inBrackets {reading : Reading β} {ts : List Token} {v : β}
    {follow : TokenKind → Prop} {opener closer : Token} (opens : opener.kind = .openBracket)
    (closes : closer.kind = .closeBracket) (inner : Takes reading ts v follow)
    (ends : follow .closeBracket) :
    Takes (do
      expect .openBracket
      let v ← reading
      expect .closeBracket
      return v) (opener :: (ts ++ [closer])) v anything := by
  refine (takes_expect opens).andThen (inner.bind ((takes_expect closes).map fun _ => v) ?_)
  intro _ _
  rwa [firstKind, closes]

/-! ## Readings within a bound -/

/-- The reading takes exactly the given tokens and gives the value within every bound that exceeds
the number of the tokens by `spare`. -/
def Within (reading : Nat → Reading β) (spare : Nat) (ts : List Token) (v : β)
    (follow : TokenKind → Prop) : Prop :=
  ∀ steps, ts.length + spare ≤ steps → Takes (reading steps) ts v follow

namespace Within

variable {reading : Nat → Reading β} {spare : Nat} {ts : List Token} {v : β}
  {follow follow' : TokenKind → Prop}

theorem mono (within : Within reading spare ts v follow)
    (weaker : ∀ k, follow' k → follow k) : Within reading spare ts v follow' :=
  fun n enough => (within n enough).mono weaker

/-- A bound that leaves something to spare allows a first step. -/
theorem step (takes : ∀ n, ts.length + spare ≤ n → Takes (reading (n + 1)) ts v follow) :
    Within reading (spare + 1) ts v follow := by
  rintro (_ | n) enough
  · cases enough
  · exact takes n (Nat.le_of_succ_le_succ enough)

/-- A reading whose bound grows with the number of the tokens that are left. -/
theorem takes (within : Within reading spare ts v follow) {bound : Source → Nat}
    (enough : ∀ source, source.lexemes.length + spare ≤ bound source) :
    Takes (do reading (bound (← get).source)) ts v follow := by
  refine .inspect fun r stands => within _ (Nat.le_trans ?_ (enough _))
  exact Nat.add_le_add_right stands.1 spare

end Within

end Reading

end DeviceScript.Script
