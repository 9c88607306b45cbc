/-!
# Tokens of the script language

A token is a kind together with the text it was read from. Round and square brackets are one
pair of kinds, so a list and a group are told apart only by where they stand. Each kind has a
label, which is how messages to the user name it.
-/

namespace DeviceScript.Script

/-- What a token is. `other` is a kind that no text is read as. -/
inductive TokenKind where
  | title
  | assignment
  | string
  | number
  | plus
  | minus
  | times
  | divide
  | print
  | identifier
  | equals
  | openBracket
  | closeBracket
  | endOfText
  | gather
  | repeatTimes
  | openBrace
  | closeBrace
  | comma
  | condition
  | otherwise
  | leave
  | equal
  | notEqual
  | less
  | greater
  | atMost
  | atLeast
  | sleep
  | function
  | call
  | each
  | repeatWhile
  | skip
  | other (label : String)
  deriving DecidableEq, Inhabited

/-- The kinds that text is read as, each with its label. -/
def TokenKind.labels : List (TokenKind × String) :=
  [(.title, "NAME"), (.assignment, "VAR"), (.string, "STRING"), (.number, "NUMBER"),
    (.plus, "PLUS"), (.minus, "MINUS"), (.times, "MUL"), (.divide, "DIV"), (.print, "PRINT"),
    (.identifier, "IDENTIFIER"), (.equals, "ASSIGN"), (.openBracket, "LPAREN"),
    (.closeBracket, "RPAREN"), (.endOfText, "EOF"), (.gather, "DYNAMIC"),
    (.repeatTimes, "LOOP"), (.openBrace, "LBRACE"), (.closeBrace, "RBRACE"), (.comma, "COMMA"),
    (.condition, "IF"), (.otherwise, "ELSE"), (.leave, "BREAK"), (.equal, "EQ"),
    (.notEqual, "NE"), (.less, "LT"), (.greater, "GT"), (.atMost, "LE"), (.atLeast, "GE"),
    (.sleep, "SLEEP"), (.function, "FUNC"), (.call, "CALL"), (.each, "FOREACH"),
    (.repeatWhile, "WHILE"), (.skip, "CONTINUE")]

def TokenKind.label : TokenKind → String
  | .other label => label
  | k => (TokenKind.labels.lookup k).getD ""

def TokenKind.ofLabel (label : String) : TokenKind :=
  match TokenKind.labels.find? fun entry => entry.2 == label with
  | some entry => entry.1
  | none => .other label

def keywords : List (String × TokenKind) :=
  [("var", .assignment), ("print", .print), ("dynamic", .gather), ("loop", .repeatTimes),
    ("if", .condition), ("else", .otherwise), ("break", .leave), ("func", .function),
    ("call", .call), ("sleep", .sleep), ("name", .title), ("dyn", .gather),
    ("foreach", .each), ("while", .repeatWhile), ("continue", .skip)]

def wordKind (word : String) : TokenKind := (keywords.lookup word).getD .identifier

def pairKind? (first second : Char) : Option TokenKind :=
  if second ≠ '=' then none
  else if first = '=' then some .equal
  else if first = '!' then some .notEqual
  else if first = '<' then some .atMost
  else if first = '>' then some .atLeast
  else none

def signKind? : Char → Option TokenKind
  | '+' => some .plus
  | '-' => some .minus
  | '*' => some .times
  | '/' => some .divide
  | '(' => some .openBracket
  | ')' => some .closeBracket
  | '[' => some .openBracket
  | ']' => some .closeBracket
  | '{' => some .openBrace
  | '}' => some .closeBrace
  | ',' => some .comma
  | '<' => some .less
  | '>' => some .greater
  | '=' => some .equals
  | _ => none

/-- A kind and the text it was read from; the end of the text has none. -/
structure Token where
  kind : TokenKind
  text : String
  deriving DecidableEq, Inhabited

def Token.finish : Token := ⟨.endOfText, ""⟩

def Token.render (token : Token) : String :=
  let shown := if token.kind = .endOfText then "None" else token.text
  "Token(" ++ token.kind.label ++ ", " ++ shown ++ ")"

end DeviceScript.Script
