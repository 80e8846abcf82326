import PagePress.Datum.Json
import PagePress.Path
import PagePress.Text.Decode
import PagePress.Text.Encode

/-!
What can go wrong, by cause, and the words for each cause. A failure of the configuration is found
before the compiler is asked for anything; a failure of the adapter is a state that should not
arise; the others come from the disk, from archives, from texts and numbers, or from outside.
-/

set_option autoImplicit false

namespace PagePress

/-- One defect of a settings record: where it is, its type and its words. -/
structure Defect where
  field : String
  item : Option Nat
  type : String
  message : String
  deriving DecidableEq, Repr

/-- Why a configuration is refused. -/
inductive ConfigurationError
  | emptyNamespace
  | unknownEncoding (encoding : String)
  | unencodable (unit encoding : String) (fault : Text.EncodeFault)
  | emptyFlag
  | unsupportedOption (flag : String)
  | argumentCount (flag : String) (count : Nat)
  | malformedLevel (flag value : String)
  | sourceLevel (value : String)
  | targetLevel (value : String)
  | missingExtension (path : Path)
  | classpathEntry (path : Path)
  | unitName (name : String)
  | noDirectory (location : String)
  | missingFile (path : String)
  | malformedFile (path : String)
  | missingSection (path : String)
  | settings (defects : List Defect)
  deriving DecidableEq, Repr

def ConfigurationError.message : ConfigurationError → String
  | .emptyNamespace => "reserved_namespace must be a non-empty package name"
  | .unknownEncoding encoding => "Unknown source encoding '" ++ encoding ++ "'"
  | .unencodable unit encoding fault =>
    "Source for '" ++ unit ++ "' cannot be represented in " ++ encoding ++ ": " ++ fault.message
  | .emptyFlag => "Compiler option flags cannot be empty"
  | .unsupportedOption flag => "Unsupported compiler option '" ++ flag ++ "'"
  | .argumentCount flag count =>
    "Compiler option '" ++ flag ++ "' expects " ++ toString count ++ " argument(s)"
  | .malformedLevel flag value =>
    "Option " ++ flag ++ " expects a version like 3.11, got '" ++ value ++ "'"
  | .sourceLevel value => "Source level " ++ value ++ " is outside the supported range 3.7-3.11"
  | .targetLevel value => "Target level " ++ value ++ " cannot be produced by Python 3.11"
  | .missingExtension path => "Extension directory '" ++ path.toString ++ "' does not exist"
  | .classpathEntry path =>
    "Classpath entry '" ++ path.toString ++ "' is not a directory or zip archive"
  | .unitName name => "'" ++ name ++ "' is not a fully-qualified unit name"
  | .noDirectory location => "No directory configured for " ++ location
  | .missingFile path => "Compiler configuration file '" ++ path ++ "' not found."
  | .malformedFile path => "Invalid YAML in '" ++ path ++ "':"
  | .missingSection path => "'compiler_config' section missing in " ++ path ++ "."
  | .settings _ => "Invalid compiler configuration"

inductive CodeFault
  | foreign
  | noCode
  | tooShort
  | noObject
  | unknownType
  | sizeOutOfRange
  | nullObject
  | nullItem
  | tooDeep
  | malformedCode
  deriving DecidableEq, Repr

def CodeFault.message : CodeFault → String
  | .foreign => "content was not produced by this interpreter"
  | .noCode => "content does not hold a code object"
  | .tooShort => "marshal data too short"
  | .noObject => "EOF read where object expected"
  | .unknownType => "bad marshal data (unknown type code)"
  | .sizeOutOfRange => "bad marshal data (bytes object size out of range)"
  | .nullObject => "NULL object in marshal data for object"
  | .nullItem => "NULL object in marshal data for tuple"
  | .tooDeep => "recursion limit exceeded"
  | .malformedCode => "Objects/codeobject.c:250: bad argument to internal function"

/-- A state of the adapter that should not arise. -/
inductive AdapterError
  | noSink
  | alreadyRun
  | alreadySealed (artifact : String)
  | writeAfterSeal (artifact : String)
  | sealedTwice (artifact : String)
  | sealedEmpty (artifact : String)
  | outputWithoutName
  | noArtifact (unit : String)
  | unsealed (artifacts : List String)
  | cannotWrite (object : String)
  | cannotRead (object : String)
  | corrupt (artifact : String) (fault : CodeFault)
  deriving DecidableEq, Repr

def AdapterError.message : AdapterError → String
  | .noSink => "compile() called before open_source_sink()"
  | .alreadyRun => "Compilation task was already run"
  | .alreadySealed artifact => "Artifact '" ++ artifact ++ "' is already sealed"
  | .writeAfterSeal artifact => "Write to sealed artifact '" ++ artifact ++ "'"
  | .sealedTwice artifact => "Artifact '" ++ artifact ++ "' sealed twice"
  | .sealedEmpty artifact => "Artifact '" ++ artifact ++ "' sealed with no bytes written"
  | .outputWithoutName => "Output requested without a class name"
  | .noArtifact unit => "Compiler reported success but produced no artifact for '" ++ unit ++ "'"
  | .unsealed artifacts => "Artifacts were never sealed: " ++ ", ".intercalate artifacts
  | .cannotWrite object => "Cannot write to " ++ object
  | .cannotRead object => "Cannot read from " ++ object
  | .corrupt artifact fault =>
    "Stored artifact for '" ++ artifact ++ "' is corrupt: " ++ fault.message

inductive DiskError
  | missing (path : String)
  | occupied (path : String)
  | directory (path : String)
  | noDirectory (path : String)
  | nameTooLong (path : String)
  | nullByte
  | outside (path root : String)
  deriving DecidableEq, Repr

def DiskError.message : DiskError → String
  | .missing path => "[Errno 2] No such file or directory: " ++ Text.Quoted.quote path
  | .occupied path => "[Errno 17] File exists: " ++ Text.Quoted.quote path
  | .directory path => "[Errno 21] Is a directory: " ++ Text.Quoted.quote path
  | .noDirectory path => "[Errno 20] Not a directory: " ++ Text.Quoted.quote path
  | .nameTooLong path => "[Errno 36] File name too long: " ++ Text.Quoted.quote path
  | .nullByte => "embedded null byte"
  | .outside path root =>
    Text.Quoted.quote path ++ " is not in the subpath of " ++ Text.Quoted.quote root ++
      " OR one path is relative and the other is absolute."

/-- Where a module comes from that lacks a member: nobody knows, or a file; its program may still be
running. -/
inductive ModulePlace
  | unknown
  | file (path : String)
  | running (path : String)
  deriving DecidableEq, Repr

def ModulePlace.describe (module : String) : ModulePlace → String
  | .unknown => Text.Quoted.quote module ++ " (unknown location)"
  | .file path => Text.Quoted.quote module ++ " (" ++ path ++ ")"
  | .running path =>
    "partially initialized module " ++ Text.Quoted.quote module ++
      " (most likely due to a circular import) (" ++ path ++ ")"

inductive ImportError
  | emptyName
  | relativeName (name : String)
  | noModule (name : String)
  | noPackage (name parent : String)
  | noMember (member module : String) (place : ModulePlace)
  | undefinedName (name : String)
  | tooDeep
  deriving DecidableEq, Repr

def ImportError.message : ImportError → String
  | .emptyName => "Empty module name"
  | .relativeName name =>
    "the 'package' argument is required to perform a relative import for " ++
      Text.Quoted.quote name
  | .noModule name => "No module named " ++ Text.Quoted.quote name
  | .noPackage name parent =>
    "No module named " ++ Text.Quoted.quote name ++ "; " ++ Text.Quoted.quote parent ++
      " is not a package"
  | .noMember member module place =>
    "cannot import name " ++ Text.Quoted.quote member ++ " from " ++ place.describe module
  | .undefinedName name => "name '" ++ name ++ "' is not defined"
  | .tooDeep => "maximum recursion depth exceeded"

/-- Everything that an operation can fail with. The last case is a failure that comes from outside:
from the parser, the code generator, the reader of configuration files or a compiler service. -/
inductive Failure
  | configuration (error : ConfigurationError)
  | adapter (error : AdapterError)
  | notReady (artifact : String)
  | notStored (name : String)
  | disk (error : DiskError)
  | notAnArchive
  | noMember (member : String)
  | noContent
  | noBytes
  | notListed
  | namelessPath (path : Path)
  | nullCharacter
  | notTextEncoding (encoding purpose : String)
  | unknownEncoding (encoding : String)
  | undecodable (fault : Text.DecodeFault)
  | brokenEncoding (encoding reason : String)
  | document (fault : Datum.Json.Fault) (source : List Char)
  | notAnInteger (fault : Datum.IntegerFault)
  | lineBelowOne
  | rangeReversed
  | severity (name : String)
  | noAttribute (kind name : String)
  | notIterable (kind : String)
  | notHashable (kind : String)
  | unknownLevel (name : String)
  | noEncodingName
  | noLevelName
  | missingFlag
  | fieldNames
  | code (fault : CodeFault)
  | importing (error : ImportError)
  | foreign (kind message : String)
  deriving DecidableEq, Repr

def Failure.message : Failure → String
  | .configuration error => error.message
  | .adapter error => error.message
  | .notReady artifact => "Artifact '" ++ artifact ++ "' has not been sealed yet"
  | .notStored name => "No compiled artifact stored for '" ++ name ++ "'"
  | .disk error => error.message
  | .notAnArchive => "File is not a zip file"
  | .noMember member =>
    Text.Quoted.quote ("There is no item named " ++ Text.Quoted.quote member ++ " in the archive")
  | .noContent => "cannot convert 'NoneType' object to bytes"
  | .noBytes => "a bytes-like object is required, not 'NoneType'"
  | .notListed => "list.remove(x): x not in list"
  | .namelessPath path =>
    "PurePosixPath(" ++ Text.Quoted.quote path.toString ++ ") has an empty name"
  | .nullCharacter => "embedded null character"
  | .notTextEncoding encoding purpose =>
    "'" ++ encoding ++ "' is not a text encoding; use codecs." ++ purpose ++
      "() to handle arbitrary codecs"
  | .unknownEncoding encoding => "unknown encoding: " ++ encoding
  | .undecodable fault => fault.message
  | .brokenEncoding encoding reason =>
    "encoding with '" ++ encoding ++ "' codec failed (UnicodeError: " ++ reason ++ ")"
  | .document fault source => fault.message source
  | .notAnInteger fault => fault.message
  | .lineBelowOne => "Line numbers are 1-based"
  | .rangeReversed => "Range end precedes range start"
  | .severity name => Text.Quoted.quote name ++ " is not a valid Severity"
  | .noAttribute kind name => "'" ++ kind ++ "' object has no attribute '" ++ name ++ "'"
  | .notIterable kind => "'" ++ kind ++ "' object is not iterable"
  | .notHashable kind => "unhashable type: '" ++ kind ++ "'"
  | .unknownLevel name => "Unknown level: " ++ Text.Quoted.quote ("Level " ++ name)
  | .noEncodingName => "open() argument 'encoding' must be str or None, not list"
  | .noLevelName => "Level not an integer or a valid string: []"
  | .missingFlag => "InMemoryCompiler.add_option() missing 1 required positional argument: 'flag'"
  | .fieldNames => "keywords must be strings"
  | .code fault => fault.message
  | .importing error => error.message
  | .foreign _ message => message

end PagePress
