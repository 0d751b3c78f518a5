import DocLedger.Number.Context
import DocLedger.Text.Blank
import DocLedger.Text.Quoted

/-!
# Faults

A fault is a failure that is not one of the library's own errors: a value of
the wrong kind, a text that cannot be read, a refusal of the operating system.
Each fault is a cause; its wording is in `Fault.message` alone and its class in
`Fault.kind`.
-/

namespace DocLedger

/-- The classes of faults. -/
inductive FaultKind
  | wrongType
  | badValue
  | missingName
  | missingKey
  | overflow
  | badDocument
  | badEncoding
  | badShape
  | badDatabase
  | badMarkup
  | noSuchFile
  | isDirectory
  | notDirectory
  | noPermission
  | refused
  | badIndex
  | invalidDecimal
  | decimalOverflow
  | interrupted
  | tooDeep
deriving Repr, DecidableEq

/-- A refusal of the operating system: its number, its words, and the name it
is about. -/
structure OsRefusal where
  number : Int
  words : String
  about : Option String
deriving Repr, DecidableEq

namespace OsRefusal

def notFound (name : String) : OsRefusal := ⟨2, "No such file or directory", some name⟩

def denied (name : String) : OsRefusal := ⟨13, "Permission denied", some name⟩

def notExecutable (name : String) : OsRefusal := ⟨8, "Exec format error", some name⟩

def directory (name : String) : OsRefusal := ⟨21, "Is a directory", some name⟩

/-- A time lies outside the calendar. -/
def timeTooLarge : OsRefusal := ⟨75, "Value too large for defined data type", none⟩

def notDirectory (name : String) : OsRefusal := ⟨20, "Not a directory", some name⟩

def message (r : OsRefusal) : String :=
  let body := "[Errno " ++ toString r.number ++ "] " ++ r.words
  match r.about with
  | some name => body ++ ": " ++ Text.Quoted.string name
  | none => body

end OsRefusal

/-- A failure outside the library's own errors. -/
inductive Fault
  /-- An integer with too many digits is written. -/
  | tooManyDigits
  /-- An integer with too many digits is read. -/
  | tooManyDigitsRead (count : Nat)
  /-- Containers stand inside one another beyond the room for them. -/
  | tooDeep (doing : String)
  | notComparable (sign left right : String)
  | notAddable (sign left right : String)
  | notNegatable (kind : String)
  | doubleOverflow
  /-- A computation with decimals has no result. -/
  | signaled (signal : Number.Signal)
  /-- A signaling decimal is a key. -/
  | signalingKey
  /-- A signaling decimal becomes a double. -/
  | signalingDouble
  | notJoinable (index : Nat) (kind : String)
  /-- A value that is put together from texts has no items. -/
  | nothingToJoin
  | notIterable (kind : String)
  /-- The arguments of a call have keys that are no texts. -/
  | keywordNotText
  | repeatedArgument (call name : String)
  | unexpectedArgument (call name : String)
  | missingArguments (call : String) (names : List String)
  | unhashable (kind : String)
  | notSubscriptable (kind : String)
  | indexRange (kind : String)
  | notAnIndex (kind given : String)
  | noEntry (index : Nat)
  /-- The text of an error is no text. -/
  | messageNotText (kind : String)
  | noMethod (owner method : String)
  | noAttribute (kind name : String)
  | unknownSubcommand (name : String)
  | decreasedCounter
  | notFixedPoint (kind : String)
  | noFormat (kind : String)
  | notReal (directive : Char) (kind : String)
  | notInteger (directive : Char) (kind : String)
  | notRealNumber (kind : String)
  | notCharacter
  | characterRange
  | starNotInteger
  /-- A width or a precision of a directive is too large. -/
  | tooBig (part : String)
  /-- An integer is too large for a size of the machine. -/
  | beyond (size : String)
  | notAnInteger (kind : String)
  | undefinedTime
  | timeRange
  | yearRange
  /-- No number, perhaps a decimal, is cut to an integer. -/
  | undefinedToInteger (asDecimal : Bool)
  /-- An infinity, perhaps a decimal, is cut to an integer. -/
  | infiniteToInteger (asDecimal : Bool)
  | incompleteKey
  | notMapping
  | noKey (key : String)
  | argumentsLeft
  | argumentsMissing
  | badDirective (c : Char) (index : Nat)
  | incompleteDirective
  | notSerializable (kind : String)
  | badKey (kind : String)
  | circular
  /-- A report holds itself. -/
  | circularReport
  | unreadablePair
  | outOfRange
  | noLevel (name : String)
  | unknownLevel (shown : String)
  | levelNotInteger
  | loggerNotText
  | nameNotText (kind : String)
  /-- A record has a field of the name already. -/
  | reservedField (name : String)
  | notPath (kind : String)
  | notPathOrNumber (kind : String)
  /-- A text that is to be an integer; the text is shown as it is quoted. -/
  | badInteger (shown : String)
  | notText (kind : String)
  | notTextOrBytes (kind : String)
  | textPattern
  | startNotBytes
  /-- A statement of a query is no text. -/
  | statementNotText (given : String)
  | notBytesLike (kind : String)
  | malformedDocument (message : String)
  | malformedText (message : String)
  | misshapen (message : String)
  | database (message : String)
  | markup (message : String)
  | os (refusal : OsRefusal)
  | nulByte
  | badVariableName
  | longLine
  | longRemainder
  | raised (message : String)
  | interrupt
deriving Repr, DecidableEq

namespace Fault

def kind : Fault → FaultKind
  | tooManyDigits => .badValue
  | tooManyDigitsRead _ => .badValue
  | tooDeep _ => .tooDeep
  | notComparable .. => .wrongType
  | notAddable .. => .wrongType
  | notNegatable _ => .wrongType
  | doubleOverflow => .overflow
  | signaled .overflow => .decimalOverflow
  | signaled _ => .invalidDecimal
  | signalingKey => .wrongType
  | signalingDouble => .badValue
  | notJoinable .. => .wrongType
  | nothingToJoin => .wrongType
  | notIterable _ => .wrongType
  | keywordNotText => .wrongType
  | repeatedArgument .. => .wrongType
  | unexpectedArgument .. => .wrongType
  | missingArguments .. => .wrongType
  | unhashable _ => .wrongType
  | notSubscriptable _ => .wrongType
  | indexRange _ => .badIndex
  | notAnIndex .. => .wrongType
  | noEntry _ => .missingKey
  | messageNotText _ => .wrongType
  | noMethod .. => .missingName
  | noAttribute .. => .missingName
  | unknownSubcommand _ => .badValue
  | decreasedCounter => .badValue
  | notFixedPoint _ => .badValue
  | noFormat _ => .wrongType
  | notReal .. => .wrongType
  | notInteger .. => .wrongType
  | notRealNumber _ => .wrongType
  | notCharacter => .wrongType
  | characterRange => .overflow
  | starNotInteger => .wrongType
  | tooBig _ => .badValue
  | beyond _ => .overflow
  | notAnInteger _ => .wrongType
  | undefinedTime => .badValue
  | timeRange => .overflow
  | yearRange => .overflow
  | undefinedToInteger _ => .badValue
  | infiniteToInteger _ => .overflow
  | incompleteKey => .badValue
  | notMapping => .wrongType
  | noKey _ => .missingKey
  | argumentsLeft => .wrongType
  | argumentsMissing => .wrongType
  | badDirective .. => .badValue
  | incompleteDirective => .badValue
  | notSerializable _ => .wrongType
  | badKey _ => .wrongType
  | circular => .badValue
  | circularReport => .badValue
  | unreadablePair => .badValue
  | outOfRange => .badValue
  | noLevel _ => .missingName
  | unknownLevel _ => .badValue
  | levelNotInteger => .wrongType
  | loggerNotText => .wrongType
  | nameNotText _ => .wrongType
  | reservedField _ => .missingKey
  | notPath _ => .wrongType
  | notPathOrNumber _ => .wrongType
  | badInteger _ => .badValue
  | notText _ => .wrongType
  | notTextOrBytes _ => .wrongType
  | textPattern => .wrongType
  | startNotBytes => .wrongType
  | statementNotText _ => .wrongType
  | notBytesLike _ => .wrongType
  | malformedDocument _ => .badDocument
  | malformedText _ => .badEncoding
  | misshapen _ => .badShape
  | database _ => .badDatabase
  | markup _ => .badMarkup
  | os refusal =>
    if refusal.number == 2 then .noSuchFile
    else if refusal.number == 20 then .notDirectory
    else if refusal.number == 21 then .isDirectory
    else if refusal.number == 75 then .refused
    else .noPermission
  | nulByte => .badValue
  | badVariableName => .badValue
  | longLine => .badValue
  | longRemainder => .badValue
  | raised _ => .badValue
  | interrupt => .interrupted

/-- The limit on digits and the way to raise it, as the reports of it end. -/
def digitAdvice : String :=
  "use sys.set_int_max_str_digits() to increase the limit"

/-- Names between quotes as a sentence lists them. -/
def nameList : List String → String
  | [] => ""
  | [a] => "'" ++ a ++ "'"
  | [a, b] => "'" ++ a ++ "' and '" ++ b ++ "'"
  | [a, b, c] => "'" ++ a ++ "', '" ++ b ++ "', and '" ++ c ++ "'"
  | a :: rest => "'" ++ a ++ "', " ++ nameList rest

def signalName : Number.Signal → String
  | .invalid => "InvalidOperation"
  | .unreadable => "ConversionSyntax"
  | .overflow => "Overflow"

def message : Fault → String
  | tooManyDigits =>
    "Exceeds the limit (" ++ toString Number.digitLimit ++
      " digits) for integer string conversion; " ++ digitAdvice
  | tooManyDigitsRead count =>
    "Exceeds the limit (" ++ toString Number.digitLimit ++
      " digits) for integer string conversion: value has " ++ toString count ++ " digits; " ++
      digitAdvice
  | tooDeep doing => "maximum recursion depth exceeded while " ++ doing
  | notComparable sign left right =>
    "'" ++ sign ++ "' not supported between instances of '" ++ left ++ "' and '" ++ right ++ "'"
  | notAddable sign left right =>
    "unsupported operand type(s) for " ++ sign ++ ": '" ++ left ++ "' and '" ++ right ++ "'"
  | notNegatable kind => "bad operand type for unary -: '" ++ kind ++ "'"
  | doubleOverflow => "int too large to convert to float"
  | signaled signal => "[<class 'decimal." ++ signalName signal ++ "'>]"
  | signalingKey => "Cannot hash a signaling NaN value"
  | signalingDouble => "cannot convert signaling NaN to float"
  | notJoinable index kind =>
    "sequence item " ++ toString index ++ ": expected str instance, " ++ kind ++ " found"
  | nothingToJoin => "can only join an iterable"
  | notIterable kind => "'" ++ kind ++ "' object is not iterable"
  | keywordNotText => "keywords must be strings"
  | repeatedArgument call name => call ++ "() got multiple values for argument '" ++ name ++ "'"
  | unexpectedArgument call name =>
    call ++ "() got an unexpected keyword argument '" ++ name ++ "'"
  | missingArguments call names =>
    call ++ "() missing " ++ toString names.length ++ " required positional argument" ++
      (if names.length == 1 then "" else "s") ++ ": " ++ nameList names
  | unhashable kind => "unhashable type: '" ++ kind ++ "'"
  | notSubscriptable kind => "'" ++ kind ++ "' object is not subscriptable"
  | indexRange kind => if kind == "bytes" then "index out of range"
    else (if kind == "str" then "string" else kind) ++ " index out of range"
  | notAnIndex kind given =>
    (if kind == "bytes" then "byte" else kind) ++ " indices must be integers or slices, not " ++ given
  | noEntry index => toString index
  | messageNotText kind => "__str__ returned non-string (type " ++ kind ++ ")"
  | noMethod owner method => "'" ++ owner ++ "' object has no attribute '" ++ method ++ "'"
  | noAttribute kind name => "'" ++ kind ++ "' object has no attribute '" ++ name ++ "'"
  | unknownSubcommand name => "unknown index subcommand: " ++ name
  | decreasedCounter => "Counter can only increase"
  | notFixedPoint kind => "Unknown format code 'f' for object of type '" ++ kind ++ "'"
  | noFormat kind => "unsupported format string passed to " ++ kind ++ ".__format__"
  | notReal directive kind =>
    "%" ++ String.singleton directive ++ " format: a real number is required, not " ++ kind
  | notInteger directive kind =>
    "%" ++ String.singleton directive ++ " format: an integer is required, not " ++ kind
  | notRealNumber kind => "must be real number, not " ++ kind
  | notCharacter => "%c requires int or char"
  | characterRange => "%c arg not in range(0x110000)"
  | starNotInteger => "* wants int"
  | tooBig part => part ++ " too big"
  | beyond size => "Python int too large to convert to " ++ size
  | notAnInteger kind => "'" ++ kind ++ "' object cannot be interpreted as an integer"
  | undefinedTime => "Invalid value NaN (not a number)"
  | timeRange => "timestamp out of range for platform time_t"
  | yearRange => "signed integer is greater than maximum"
  | undefinedToInteger asDecimal =>
    if asDecimal then "cannot convert NaN to integer" else "cannot convert float NaN to integer"
  | infiniteToInteger asDecimal =>
    if asDecimal then "cannot convert Infinity to integer"
    else "cannot convert float infinity to integer"
  | incompleteKey => "incomplete format key"
  | notMapping => "format requires a mapping"
  | noKey key => Text.Quoted.string key
  | argumentsLeft => "not all arguments converted during string formatting"
  | argumentsMissing => "not enough arguments for format string"
  | badDirective c index =>
    let shown := if 31 ≤ c.toNat && c.toNat < 127 then c else '?'
    "unsupported format character '" ++ String.singleton shown ++ "' (0x" ++
      String.ofList (Nat.toDigits 16 c.toNat) ++ ") at index " ++ toString index
  | incompleteDirective => "incomplete format"
  | notSerializable kind => "Object of type " ++ kind ++ " is not JSON serializable"
  | badKey kind => "keys must be str, int, float, bool or None, not " ++ kind
  | circular => "Circular reference detected"
  | circularReport => "Circular reference detected (id repeated)"
  | unreadablePair => "too many values to unpack (expected 2)"
  | outOfRange => "Out of range float values are not JSON compliant"
  | noLevel name => "module 'logging' has no attribute " ++ "'" ++ name ++ "'"
  | unknownLevel shown => "Unknown level: " ++ shown
  | levelNotInteger => "level must be an integer"
  | loggerNotText => "A logger name must be a string"
  | nameNotText kind => "attribute name must be string, not '" ++ kind ++ "'"
  | reservedField name =>
    Text.Quoted.string ("Attempt to overwrite " ++ Text.Quoted.string name ++ " in LogRecord")
  | notPath kind => "expected str, bytes or os.PathLike object, not " ++ kind
  | notPathOrNumber kind => "stat: path should be string, bytes, os.PathLike or integer, not " ++ kind
  | badInteger shown => "invalid literal for int() with base 10: " ++ shown
  | notTextOrBytes kind => "expected string or bytes-like object, got '" ++ kind ++ "'"
  | textPattern => "cannot use a string pattern on a bytes-like object"
  | statementNotText given => "execute() argument 1 must be str, not " ++ given
  | startNotBytes => "startswith first arg must be bytes or a tuple of bytes, not str"
  | notText kind => "the JSON object must be str, bytes or bytearray, not " ++ kind
  | notBytesLike kind => "a bytes-like object is required, not '" ++ kind ++ "'"
  | malformedDocument message => message
  | malformedText message => message
  | misshapen message => message
  | database message => message
  | markup message => message
  | os refusal => refusal.message
  | nulByte => "embedded null byte"
  | badVariableName => "illegal environment variable name"
  | longLine => "Separator is found, but chunk is longer than limit"
  | longRemainder => "Separator is not found, and chunk exceed the limit"
  | raised message => message
  | interrupt => ""

end Fault

end DocLedger
