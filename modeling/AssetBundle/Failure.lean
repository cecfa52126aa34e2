import AssetBundle.Number.Integer
import AssetBundle.Text.Latin1
import AssetBundle.UrlFault
import AssetBundle.Value

/-!
# AssetBundle.Failure

Everything that can go wrong, by cause. A failure has a kind and a message, which are part of the
output: the hosts log them and the error page of the gateway shows them. Failures of the system
(files, connections) are told apart from the others, because a connection that fails ends quietly
while any other failure in a handler is logged as an error.
-/

namespace AssetBundle

/-- The conditions that the file system reports. -/
inductive Errno where
  | noEntry
  | notDirectory
  | isDirectory
  | tooManyLinks
  | nameTooLong
  | busy
  | exists
  | notEmpty
  | denied
deriving DecidableEq, Repr

namespace Errno

def code : Errno → Nat
  | .noEntry => 2
  | .denied => 13
  | .busy => 16
  | .exists => 17
  | .notDirectory => 20
  | .isDirectory => 21
  | .nameTooLong => 36
  | .notEmpty => 39
  | .tooManyLinks => 40

def reason : Errno → Text
  | .noEntry => "No such file or directory"
  | .denied => "Permission denied"
  | .busy => "Device or resource busy"
  | .exists => "File exists"
  | .notDirectory => "Not a directory"
  | .isDirectory => "Is a directory"
  | .nameTooLong => "File name too long"
  | .notEmpty => "Directory not empty"
  | .tooManyLinks => "Too many levels of symbolic links"

def kind : Errno → Text
  | .noEntry => "FileNotFoundError"
  | .denied => "PermissionError"
  | .exists => "FileExistsError"
  | .notDirectory => "NotADirectoryError"
  | .isDirectory => "IsADirectoryError"
  | _ => "OSError"

end Errno

/-- Faults in a stream of compressed data, in the order in which the reader looks for them. -/
inductive StreamFault where
  | blockType
  | storedLengths
  | symbolCounts
  | codeLengthCode
  | lengthRepeat
  | noEndOfBlock
  | literalCode
  | distanceCode
  | literalSymbol
  | distanceSymbol
  | distanceTooFar
deriving DecidableEq, Repr

def StreamFault.message : StreamFault → Text
  | .blockType => "invalid block type"
  | .storedLengths => "invalid stored block lengths"
  | .symbolCounts => "too many length or distance symbols"
  | .codeLengthCode => "invalid code lengths set"
  | .lengthRepeat => "invalid bit length repeat"
  | .noEndOfBlock => "invalid code -- missing end-of-block"
  | .literalCode => "invalid literal/lengths set"
  | .distanceCode => "invalid distances set"
  | .literalSymbol => "invalid literal/length code"
  | .distanceSymbol => "invalid distance code"
  | .distanceTooFar => "invalid distance too far back"

inductive Failure where
  /-- A failure that a send primitive, a handshake or a collaborator brought in from outside. -/
  | foreign (kind message : Text) (system : Bool)
  /-- The file system refused an operation, on the file of that name if one is given. -/
  | file (reason : Errno) (name : Option Text)
  /-- A path holds a null character, which no name can hold. -/
  | nullInPath
  /-- A file was to be moved onto something that is no path. -/
  | noPath (typeName : Text)
  | unencodable (codec limit : Text) (run : Unencodable)
  | undecodable (run : Utf8.Malformed)
  | unreadableInteger (why : Integer.Unreadable) (source : Text)
  /-- A number has too many digits to be written. -/
  | integerTooLong
  -- Values of a wrong type.
  | notInteger (typeName : Text)
  | integerTooLarge
  | integerFormat (typeName : Text)
  | unsupportedFormat (typeName : Text)
  | notIterable (typeName : Text)
  | notUnpackable (typeName : Text)
  | tooFewParts (expected got : Nat)
  | tooManyParts (expected : Nat)
  | noLength (typeName : Text)
  | noAttribute (typeName member : Text)
  | operandTypes (operator left right : Text)
  | textOperand (typeName : Text)
  | bytesOperand (typeName : Text)
  | bufferOperand (typeName : Text)
  | listOperand (typeName : Text)
  | bytesRequired (typeName : Text)
  | bufferRequired
  | textNotHashable
  | missingKey (key : Text)
  -- Compressed containers.
  | notCompressible (typeName : Text)
  | compressionLevel (size : Nat)
  | notGzip (magic : Bytes)
  | unknownMethod
  | truncated
  | stream (fault : StreamFault)
  | checksum
  | wrongLength
  -- Assets and their tables.
  | urlType
  | contentTypeType
  | payloadType
  | headerLine (line : Text)
  | recordType
  | arrayLengths
  | arraySizes
  | indexOutOfRange
  | indexTooLarge
  | tableType
  | bundleExtension
  | bundleFormat
  | missingComment
  | sliceStep
  -- Requests and responses.
  | noTerminator
  | requestLine
  | disconnected (message : Text)
  | responseTerminator
  | statusLine (line : Text)
  -- Building a bundle.
  | directory (name : Text) (reason : Text)
  | outputCreate (name : Text) (reason : Text)
  | outputWrite (name : Text) (reason : Text)
  | fileType (name : Text)
  | maxAge
  -- Launching a server.
  | serverType
  | serverName (server : Text)
  | bindAddress (bind : Value)
  | targetMissing (target : Text)
  | targetForm (target : Text)
  | targetType
  | recursion
  -- Logging.
  | severityName (name : Text)
  | severityType (level : Value)
  -- Trial servers and the packaging.
  | assertion (message : Text)
  | startFailed (output : Text)
  | runaway
  | lifespanEnded (phase : Text)
  | lifespanTimeout (phase : Text) (completed : List Text)
  | url (fault : UrlFault)
  | headerPart (part : Text) (isName : Bool)
  | noVersion
  | linkRemoval
  | unexpectedArgument (call name : Text)
  | repeatedArgument (call name : Text)
  | tooManyArguments (call : Text) (low high given : Nat)
  | missingArguments (call : Text) (names : List Text)
  | textRequired (typeName : Text)

namespace Failure

/-- A message with a gap for one quoted text. -/
def about (before after t : Text) : Text := before ++ (Quoted.text t ++ after)

def plural : Nat → Text
  | 1 => ""
  | _ => "s"

def runMessage (codec limit : Text) (run : Unencodable) : Text :=
  let head : Text := "'" ++ codec ++ "' codec can't encode character"
  if run.first = run.last then
    head ++ " '" ++ Quoted.numbered run.point ++ "' in position " ++ Text.ofNat run.first ++ ": " ++
      limit
  else
    head ++ "s in position " ++ Text.ofNat run.first ++ "-" ++ Text.ofNat run.last ++ ": " ++ limit

def malformedMessage (run : Utf8.Malformed) : Text :=
  let reason : Text :=
    match run.reason with
    | .startByte => "invalid start byte"
    | .continuationByte => "invalid continuation byte"
    | .endOfData => "unexpected end of data"
  let last := run.first + run.width - 1
  if run.width = 1 then
    "'utf-8' codec can't decode byte 0x" ++ Quoted.hex 2 run.byte.toNat ++ " in position " ++
      Text.ofNat run.first ++ ": " ++ reason
  else
    "'utf-8' codec can't decode bytes in position " ++ Text.ofNat run.first ++ "-" ++
      Text.ofNat last ++ ": " ++ reason

def tooManyMessage (call : Text) (low high given : Nat) : Text :=
  let range : Text := if low = high then Text.ofNat high
    else "from " ++ Text.ofNat low ++ " to " ++ Text.ofNat high
  let argument : Text := if high = 1 && low = high then "argument" else "arguments"
  let verb : Text := if given = 1 then "was" else "were"
  call ++ "() takes " ++ range ++ " positional " ++ argument ++ " but " ++ Text.ofNat given ++
    " " ++ verb ++ " given"

/-- Items with commas between them and a conjunction before the last. -/
def enumeration : List Text → Text
  | [] => []
  | [a] => a
  | [a, b] => a ++ " and " ++ b
  | a :: b :: rest =>
    let tail : Text := (b :: rest).dropLast.flatMap fun item => (", " : Text) ++ item
    a ++ tail ++ ", and " ++ (b :: rest).getLast (by simp)

def kind : Failure → Text
  | foreign kind _ _ => kind
  | file reason _ => reason.kind
  | unencodable .. => "UnicodeEncodeError"
  | undecodable _ => "UnicodeDecodeError"
  | integerTooLarge => "OverflowError"
  | missingKey _ => "KeyError"
  | noAttribute .. => "AttributeError"
  | compressionLevel _ => "CompressionError"
  | notGzip _ | unknownMethod | checksum | wrongLength => "BadGzipFile"
  | truncated => "EOFError"
  | stream _ => "error"
  | indexOutOfRange | indexTooLarge | missingComment => "IndexError"
  | noTerminator | requestLine => "MalformedRequest"
  | disconnected _ => "DisconnectedError"
  | directory .. | outputCreate .. | outputWrite .. => "BuildError"
  | statusLine _ | assertion _ => "AssertionError"
  | recursion => "RecursionError"
  | url fault => fault.kind
  | headerPart .. => "InvalidHeader"
  | startFailed _ | runaway | lifespanEnded _ | lifespanTimeout .. | noVersion => "RuntimeError"
  | linkRemoval => "OSError"
  | unreadableInteger .. | integerTooLong | integerFormat _ | tooFewParts .. | tooManyParts _
  | headerLine _ | arrayLengths | arraySizes | sliceStep | bundleExtension | bundleFormat
  | responseTerminator | fileType _ | nullInPath | serverName _ | bindAddress _ | targetMissing _
  | targetForm _ | severityName _ => "ValueError"
  | notInteger _ | unsupportedFormat _ | notIterable _ | notUnpackable _ | noLength _
  | operandTypes .. | textOperand _ | bytesOperand _ | bufferOperand _ | listOperand _
  | bytesRequired _ | bufferRequired
  | textNotHashable | notCompressible _ | urlType | contentTypeType | payloadType | recordType
  | tableType | maxAge | serverType | targetType | noPath _ | unexpectedArgument ..
  | repeatedArgument .. | tooManyArguments .. | missingArguments .. | textRequired _
  | severityType _ => "TypeError"

def message : Failure → Text
  | foreign _ message _ => message
  | file reason name =>
    let head : Text := "[Errno " ++ Text.ofNat reason.code ++ "] " ++ reason.reason
    match name with
    | some name => head ++ ": " ++ Quoted.text name
    | none => head
  | nullInPath => "embedded null byte"
  | noPath typeName =>
    "replace: dst should be string, bytes or os.PathLike, not " ++ typeName
  | unencodable codec limit run => runMessage codec limit run
  | undecodable run => malformedMessage run
  | unreadableInteger .notANumeral source =>
    "invalid literal for int() with base 10: " ++ (Quoted.text source).take 200
  | unreadableInteger (.tooManyDigits digits) _ =>
    "Exceeds the limit (4300 digits) for integer string conversion: value has " ++
      Text.ofNat digits ++
      " digits; use sys.set_int_max_str_digits() to increase the limit"
  | integerTooLong =>
    "Exceeds the limit (4300 digits) for integer string conversion; " ++
      "use sys.set_int_max_str_digits() to increase the limit"
  | notInteger typeName => about "" " object cannot be interpreted as an integer" typeName
  | integerTooLarge => "Python int too large to convert to C int"
  | integerFormat typeName => about "Unknown format code 'd' for object of type " "" typeName
  | unsupportedFormat typeName =>
    "unsupported format string passed to " ++ typeName ++ ".__format__"
  | notIterable typeName => about "" " object is not iterable" typeName
  | notUnpackable typeName => "cannot unpack non-iterable " ++ typeName ++ " object"
  | tooFewParts expected got =>
    "not enough values to unpack (expected " ++ Text.ofNat expected ++ ", got " ++
      Text.ofNat got ++ ")"
  | tooManyParts expected =>
    "too many values to unpack (expected " ++ Text.ofNat expected ++ ")"
  | noLength typeName => about "object of type " " has no len()" typeName
  | noAttribute typeName member =>
    about "" " object has no attribute " typeName ++ Quoted.text member
  | operandTypes operator left right =>
    "unsupported operand type(s) for " ++ operator ++ ": " ++ Quoted.text left ++ " and " ++
      Quoted.text right
  | textOperand typeName => "can only concatenate str (not \"" ++ typeName ++ "\") to str"
  | bytesOperand typeName => "can't concat " ++ typeName ++ " to bytes"
  | bufferOperand typeName => "can't concat " ++ typeName ++ " to bytearray"
  | listOperand typeName => "can only concatenate list (not \"" ++ typeName ++ "\") to list"
  | bytesRequired typeName => about "a bytes-like object is required, not " "" typeName
  | bufferRequired => "object supporting the buffer API required"
  | textNotHashable => "Strings must be encoded before hashing"
  | missingKey key => Quoted.text key
  | notCompressible typeName => about "Can only compress bytes, not <class " ">." typeName
  | compressionLevel size =>
    "Could not compress " ++ Text.ofNat size ++ " bytes: Bad compression level"
  | notGzip magic => "Not a gzipped file (" ++ Quoted.bytes magic ++ ")"
  | unknownMethod => "Unknown compression method"
  | truncated => "Compressed file ended before the end-of-stream marker was reached"
  | stream fault => "Error -3 while decompressing data: " ++ fault.message
  | checksum => "CRC check failed"
  | wrongLength => "Incorrect length of data produced"
  | urlType => "Asset url must be a str."
  | contentTypeType => "Asset content type must be a str."
  | payloadType => "Asset payload must be bytes or str."
  | headerLine line => about "Invalid header line in content type: " "" line
  | recordType => "AssetTable can only contain AssetRecord objects."
  | arrayLengths => "Asset arrays must have equal length."
  | arraySizes => "Asset sizes do not match the contents."
  | indexOutOfRange => "tuple index out of range"
  | indexTooLarge => "cannot fit 'int' into an index-sized integer"
  | tableType => "set_static_assets() expects an AssetTable."
  | bundleExtension => "Compiled asset modules must have a .py extension."
  | bundleFormat => "Not a compiled asset module."
  | missingComment => "list index out of range"
  | sliceStep => "slice step cannot be zero"
  | noTerminator => "Request has no header terminator."
  | requestLine => "Request line must contain method and path."
  | disconnected message => message
  | responseTerminator => "Response has no header terminator."
  | statusLine line => about "Unexpected status line " "" line
  | directory name reason => about "Cannot open input directory " ": " name ++ reason
  | outputCreate name reason => about "Cannot create output " ": " name ++ reason
  | outputWrite name reason => about "Cannot write output " ": " name ++ reason
  | fileType name => about "Not an accepted file type: " "" name
  | maxAge => "compile_assets() max_age must be a non-negative int"
  | serverType => "embedstatics.run() server must be a str."
  | serverName server => about "Invalid server specified: " "" server
  | bindAddress bind => "embedstatics.run() bind must be 'host:port', not " ++ bind.quoted
  | targetMissing target => about "Asset module not found: " "" target
  | targetForm target =>
    about "Give an asset module (.py file) or the full path of an app as 'module:name', not " ""
      target
  | targetType => "embedstatics.run() needs an asset module or an ASGI app."
  | recursion => "maximum recursion depth exceeded"
  | severityName name => about "Unknown level: " "" name
  | severityType level => "Level not an integer or a valid string: " ++ level.quoted
  | assertion message => message
  | startFailed output => "Process failed to start!\n" ++ output
  | runaway => "Runaway server process failed to terminate!"
  | lifespanEnded phase => "Lifespan task finished without producing " ++ phase
  | lifespanTimeout phase completed =>
    "Timeout for " ++ phase ++ ", has [" ++
      List.intercalate (", " : Text) (completed.map Quoted.text) ++ "]"
  | url fault => fault.message
  | headerPart part isName =>
    let which : Text := if isName then "name" else "value"
    "Invalid leading whitespace, reserved character(s), or return character(s) in header " ++
      which ++ ": " ++ Quoted.text part
  | noVersion => "Could not find __version__"
  | linkRemoval => "Cannot call rmtree on a symbolic link"
  | unexpectedArgument call name =>
    call ++ "() got an unexpected keyword argument " ++ Quoted.text name
  | repeatedArgument call name =>
    call ++ "() got multiple values for argument " ++ Quoted.text name
  | tooManyArguments call low high given => tooManyMessage call low high given
  | missingArguments call names =>
    call ++ "() missing " ++ Text.ofNat names.length ++ " required positional argument" ++
      plural names.length ++ ": " ++ enumeration (names.map Quoted.text)
  | textRequired typeName => "str expected, not " ++ typeName

/-- Whether the failure comes from the system: files, connections, and containers read as files. -/
def isSystem : Failure → Bool
  | foreign _ _ system => system
  | file .. | disconnected _ | directory .. | outputCreate .. | outputWrite .. | linkRemoval
  | notGzip _ | unknownMethod | checksum | wrongLength | headerPart .. => true
  | url fault => fault.isClients
  | _ => false

end Failure

/-- The value, or why there is none. -/
abbrev Outcome (α : Type) := Except Failure α

namespace Latin1

/-- Bytes for the wire. -/
def encodeOrFail (t : Text) : Outcome Bytes :=
  match encode t with
  | .ok s => .ok s
  | .error run => .error (.unencodable "latin-1" "ordinal not in range(256)" run)

end Latin1

namespace Utf8

def encodeOrFail (t : Text) : Outcome Bytes :=
  match encode t with
  | .ok s => .ok s
  | .error run => .error (.unencodable "utf-8" "surrogates not allowed" run)

def decodeOrFail (s : Bytes) : Outcome Text :=
  match decode s with
  | .ok t => .ok t
  | .error run => .error (.undecodable run)

end Utf8

namespace Integer

def readOrFail (t : Text) : Outcome Int :=
  match read t with
  | .ok n => .ok n
  | .error why => .error (.unreadableInteger why t)

end Integer
end AssetBundle
