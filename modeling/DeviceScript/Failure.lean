import DeviceScript.Number.Literal
import DeviceScript.Script.Lexeme
import DeviceScript.Text.Quoted

/-!
# Failures

Everything that can go wrong while a script is read or run, each as its cause with the facts
that the message tells. `Failure.message` holds all wording, and `Failure.kind` sorts the
causes into the families that a caller tells apart.
-/

namespace DeviceScript

open DeviceScript.Script

inductive FailureKind where
  | script
  | general
  | operandType
  | badValue
  | missingAttribute
  | badIndex
  | missingKey
  | overflow
  | unassigned
  | runtime
  | notImplemented
  | fileMissing
  | fileExists
  | notDirectory
  | isDirectory
  | permission
  | system
  | fileMove
  | unreadableImage
  | imageEncoding
  | vision
  | pattern
  | noWidget
  | forcedExit
  | undecodable
  | luaError
  | luaExit
  | memory
  | other (label : String)
  deriving DecidableEq, Inhabited

inductive GrammarFault where
  | expected (wanted found : TokenKind)
  | comparison (found : TokenKind)
  | statement (found : TokenKind)
  deriving DecidableEq

inductive FileFault where
  | missing
  | exists
  | notDirectory
  | isDirectory
  | notEmpty
  | invalid
  | busy
  | tooLong
  deriving DecidableEq, Inhabited

inductive Failure where
  | lexical (line : Nat) (fault : LexicalFault)
  | grammar (line : Nat) (fault : GrammarFault)
  | noDevice
  | noOperation (name : String)
  /-- An operator that no text is read as. -/
  | unknownOperator (label : String)
  | functionArity (name : String) (expected given : Nat)
  | tooFewArguments (name : String) (needed given : Nat)
  | unboundParameter (name : String)
  | operands (sign left right : String)
  | order (sign left right : String)
  | concatenation (sequence found : String)
  | repetition (found : String)
  | negation (found : String)
  | notIterable (found : String)
  | notContainer (found : String)
  | notCallable (found : String)
  | notCallableObject (shown : String)
  | notSubscriptable (found : String)
  | noLength (found : String)
  | noAttribute (owner member : String)
  | indexType (sequence found : String)
  | wholeFrom (found : String)
  | realFrom (found : String)
  | wholeText (text : String)
  | basedText (base : Nat) (text : String)
  | realText (text : String)
  | wholeTextTooLong (digits : Nat)
  | wholeTooLong
  | quotientTooLarge
  | wholeTooLarge
  | infinityToWhole
  | notANumberToWhole
  | repetitionTooLarge
  | repeatedTextTooLong
  /-- There is no room for what is asked for; nothing is told about it. -/
  | outOfMemory
  | indexOut (sequence : String)
  | indexTooLarge
  | missingKey (key shown : String)
  | characterLength (length : Nat)
  | characterType (found : String)
  /-- More positional arguments than parameters: `fewest` and `most` are accepted. -/
  | tooManyArguments (function : String) (fewest most given keywordOnly : Nat)
  | missingArguments (function : String) (keywordOnly : Bool) (names : List String)
  | unexpectedKeyword (function name : String)
  | repeatedArgument (function name : String)
  | positionalOnly (function : String) (names : List String)
  /-- The arguments of a call do not come one after another. -/
  | notSpreadable (function found : String)
  | attributeName (found : String)
  | noClassAttribute (owner member : String)
  | unhashable (found : String)
  /-- A name is read before it has a value. -/
  | unassigned (name : String)
  /-- A file operation is refused; `subject` shows the paths it was asked for. -/
  | file (fault : FileFault) (subject : String)
  /-- A cause outside the language, with the text it comes with. -/
  | raised (kind : FailureKind) (message : String)
  /-- A cause outside the language that tells one thing first, or nothing at all. -/
  | reported (kind : FailureKind) (first : Option String) (message : String)
  deriving DecidableEq, Inhabited

def GrammarFault.message (line : Nat) : GrammarFault → String
  | .expected wanted found =>
    "错误码 1 出现在 " ++ toString line ++ " 行 错误的语法 需要一个 " ++ wanted.label ++ " 但是得到了一个 " ++ found.label
  | .comparison found =>
    "错误码 2 出现在 " ++ toString line ++ " 行 无法解析的表达式 得到了非预期的运算符 " ++ found.label
  | .statement found =>
    "错误码 3 出现在 " ++ toString line ++ " 行 错误的语法结构体 " ++ found.label

def lexicalMessage (line : Nat) : LexicalFault → String
  | .unclosedString => "字符串未闭合，在第 " ++ toString line ++ " 行"
  | .illegalCharacter c =>
    "非法字符: " ++ String.singleton c ++ " 在第 " ++ toString line ++ " 行"

def FileFault.number : FileFault → Nat
  | .missing => 2
  | .exists => 17
  | .notDirectory => 20
  | .isDirectory => 21
  | .notEmpty => 39
  | .invalid => 22
  | .busy => 16
  | .tooLong => 36

def FileFault.words : FileFault → String
  | .missing => "No such file or directory"
  | .exists => "File exists"
  | .notDirectory => "Not a directory"
  | .isDirectory => "Is a directory"
  | .notEmpty => "Directory not empty"
  | .invalid => "Invalid argument"
  | .busy => "Device or resource busy"
  | .tooLong => "File name too long"

def FileFault.message (fault : FileFault) : String :=
  "[Errno " ++ toString fault.number ++ "] " ++ fault.words

def FileFault.kind : FileFault → FailureKind
  | .missing => .fileMissing
  | .exists => .fileExists
  | .notDirectory => .notDirectory
  | .isDirectory => .isDirectory
  | .notEmpty | .invalid | .busy | .tooLong => .system

def quotedLimit : Nat := 200

def unreadableWhole (base : Nat) (s : String) : String :=
  "invalid literal for int() with base " ++ toString base ++ ": " ++
    String.ofList ((Text.quoted s).toList.take quotedLimit)

def listedNames : List String → String
  | [] => ""
  | [name] => "'" ++ name ++ "'"
  | [first, second] => "'" ++ first ++ "' and '" ++ second ++ "'"
  | names =>
    Text.join ", " (names.dropLast.map fun name => "'" ++ name ++ "'") ++ ", and '" ++
      names.getLastD "" ++ "'"

def pluralEnding (n : Nat) : String := if n = 1 then "" else "s"

def tooManyMessage (function : String) (fewest most given keywordOnly : Nat) : String :=
  let accepted :=
    if fewest < most then "from " ++ toString fewest ++ " to " ++ toString most ++
      " positional arguments"
    else toString most ++ " positional argument" ++ pluralEnding most
  let named :=
    if keywordOnly = 0 then ""
    else " positional argument" ++ pluralEnding given ++ " (and " ++ toString keywordOnly ++
      " keyword-only argument" ++ pluralEnding keywordOnly ++ ")"
  let verb := if given = 1 ∧ keywordOnly = 0 then "was" else "were"
  function ++ "() takes " ++ accepted ++ " but " ++ toString given ++ named ++ " " ++ verb ++
    " given"

def Failure.message : Failure → String
  | .lexical line fault => lexicalMessage line fault
  | .grammar line fault => fault.message line
  | .noDevice => "请先使用 call select_device(设备名称) 选择设备 !"
  | .noOperation name => "设备不存在 " ++ name ++ " 操作 !"
  | .unknownOperator label => "未知运算符: " ++ label
  | .functionArity name expected given =>
    "函数 " ++ name ++ " 参数数量不匹配，期望 " ++ toString expected ++ "，实际 " ++ toString given
  | .tooFewArguments name needed given =>
    "参数不足，函数 " ++ name ++ " 需要至少 " ++ toString needed ++ " 个参数，实际传入 " ++ toString given ++ " 个参数"
  | .unboundParameter name => "参数 " ++ name ++ " 未传入且无默认值"
  | .operands sign left right =>
    "unsupported operand type(s) for " ++ sign ++ ": '" ++ left ++ "' and '" ++ right ++ "'"
  | .order sign left right =>
    "'" ++ sign ++ "' not supported between instances of '" ++ left ++ "' and '" ++ right ++ "'"
  | .concatenation sequence found =>
    "can only concatenate " ++ sequence ++ " (not \"" ++ found ++ "\") to " ++ sequence
  | .repetition found => "can't multiply sequence by non-int of type '" ++ found ++ "'"
  | .negation found => "bad operand type for unary -: '" ++ found ++ "'"
  | .notIterable found => "'" ++ found ++ "' object is not iterable"
  | .notContainer found => "argument of type '" ++ found ++ "' is not iterable"
  | .notCallable found => "'" ++ found ++ "' object is not callable"
  | .notCallableObject shown => shown ++ " is not a callable object"
  | .notSubscriptable found => "'" ++ found ++ "' object is not subscriptable"
  | .noLength found => "object of type '" ++ found ++ "' has no len()"
  | .noAttribute owner member =>
    "'" ++ owner ++ "' object has no attribute '" ++ member ++ "'"
  | .indexType sequence found =>
    sequence ++ " indices must be integers or slices, not " ++ found
  | .wholeFrom found =>
    "int() argument must be a string, a bytes-like object or a real number, not '" ++ found ++ "'"
  | .realFrom found => "float() argument must be a string or a real number, not '" ++ found ++ "'"
  | .wholeText s => unreadableWhole 10 s
  | .basedText base s => unreadableWhole base s
  | .realText s => "could not convert string to float: " ++ Text.quoted s
  | .wholeTextTooLong digits =>
    "Exceeds the limit (4300 digits) for integer string conversion: value has " ++
      toString digits ++ " digits; use sys.set_int_max_str_digits() to increase the limit"
  | .wholeTooLong =>
    "Exceeds the limit (4300 digits) for integer string conversion; " ++
      "use sys.set_int_max_str_digits() to increase the limit"
  | .quotientTooLarge => "integer division result too large for a float"
  | .wholeTooLarge => "int too large to convert to float"
  | .infinityToWhole => "cannot convert float infinity to integer"
  | .notANumberToWhole => "cannot convert float NaN to integer"
  | .repetitionTooLarge | .indexTooLarge => "cannot fit 'int' into an index-sized integer"
  | .repeatedTextTooLong => "repeated string is too long"
  | .outOfMemory => ""
  | .indexOut sequence => sequence ++ " index out of range"
  | .missingKey _ shown => shown
  | .characterLength length =>
    "ord() expected a character, but string of length " ++ toString length ++ " found"
  | .characterType found => "ord() expected string of length 1, but " ++ found ++ " found"
  | .tooManyArguments function fewest most given keywordOnly =>
    tooManyMessage function fewest most given keywordOnly
  | .missingArguments function keywordOnly names =>
    function ++ "() missing " ++ toString names.length ++ " required " ++
      (if keywordOnly then "keyword-only" else "positional") ++ " argument" ++
      pluralEnding names.length ++ ": " ++ listedNames names
  | .unexpectedKeyword function name =>
    function ++ "() got an unexpected keyword argument '" ++ name ++ "'"
  | .repeatedArgument function name =>
    function ++ "() got multiple values for argument '" ++ name ++ "'"
  | .positionalOnly function names =>
    function ++ "() got some positional-only arguments passed as keyword arguments: '" ++
      Text.join ", " names ++ "'"
  | .notSpreadable function found =>
    function ++ "() argument after * must be an iterable, not " ++ found
  | .attributeName found => "attribute name must be string, not '" ++ found ++ "'"
  | .noClassAttribute owner member =>
    "type object '" ++ owner ++ "' has no attribute '" ++ member ++ "'"
  | .unhashable found => "unhashable type: '" ++ found ++ "'"
  | .unassigned name =>
    "cannot access local variable '" ++ name ++ "' where it is not associated with a value"
  | .file fault subject => fault.message ++ ": " ++ subject
  | .raised _ message => message
  | .reported _ _ message => message

/-- What a failure tells first: the number of a refused file operation, the key that is missing,
and otherwise its message, if it has one. -/
def Failure.headline : Failure → Option String
  | .file fault _ => some (toString fault.number)
  | .missingKey key _ => some key
  | .reported _ first _ => first
  | .outOfMemory => none
  | e => some e.message

def Failure.kind : Failure → FailureKind
  | .lexical .. | .grammar .. | .noDevice | .noOperation _ | .unknownOperator _ => .script
  | .functionArity .. | .tooFewArguments .. | .unboundParameter _ => .general
  | .operands .. | .order .. | .concatenation .. | .repetition _ | .negation _
  | .notIterable _ | .notContainer _ | .notCallable _ | .notCallableObject _
  | .notSubscriptable _ | .noLength _ | .indexType .. | .wholeFrom _ | .realFrom _
  | .characterLength _ | .characterType _ | .tooManyArguments .. | .missingArguments ..
  | .unexpectedKeyword .. | .repeatedArgument .. | .positionalOnly .. | .notSpreadable ..
  | .attributeName _ | .unhashable _ => .operandType
  | .noAttribute .. | .noClassAttribute .. => .missingAttribute
  | .unassigned _ => .unassigned
  | .wholeText _ | .basedText .. | .realText _ | .wholeTextTooLong _ | .wholeTooLong
  | .notANumberToWhole => .badValue
  | .quotientTooLarge | .wholeTooLarge | .infinityToWhole | .repetitionTooLarge
  | .repeatedTextTooLong => .overflow
  | .outOfMemory => .memory
  | .indexOut _ | .indexTooLarge => .badIndex
  | .missingKey .. => .missingKey
  | .file fault _ => fault.kind
  | .raised kind _ => kind
  | .reported kind _ _ => kind

end DeviceScript
