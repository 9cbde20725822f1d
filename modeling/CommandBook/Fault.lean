/-!
# Faults

Failures for which the program has no report of its own: they end the invocation at once. All other
failures are errors of their own types, with a message.
-/

namespace CommandBook

/-- Why an invocation ended without a report. -/
inductive Fault where
  /-- The text of an integer would be, or is, too long. -/
  | numeralTooLong
  /-- A character that looks like a digit has no decimal value. -/
  | notADecimalDigit
  /-- A text that is tagged as a number writes none. -/
  | notANumber
  /-- A number that is the code point of no character. -/
  | notACharacter
  /-- A number that is too large even to be compared with code points. -/
  | codePointTooLarge
  /-- A text that is tagged as a number is empty. -/
  | emptyNumber
  /-- A text that is tagged as a date does not look like one. -/
  | notATimestamp
  /-- A text that is tagged as a date stands under a key of a mapping. -/
  | timestampNotText
  /-- A number in sixtieths has so many parts that their steps are no floating point numbers. -/
  | stepTooLarge
  /-- The text of a mapping is that of the mapping itself. -/
  | endless
  /-- A collection that holds itself has no JSON. -/
  | circular
  /-- A date or time of day that does not exist. -/
  | impossibleDate
  /-- A truth value that is tagged as one and has none of its spellings. -/
  | notATruthValue
  /-- A command for the shell that holds the character NUL. -/
  | nulInCommand
  /-- The transport failed in a way that is not among its own failures. -/
  | unknownTransportFailure
  /-- A time that is infinite has no whole number of milliseconds. -/
  | infiniteTime
  /-- A time that is not a number has none either. -/
  | undefinedTime
  /-- A document value that JSON has no form for. -/
  | notEncodable
  /-- The name of the environment file is not a text. -/
  | environmentFileNotText
  /-- Two arguments of a command-line callback have one name. -/
  | argumentClash
  /-- A question for proposals that does not say all that it must. -/
  | questionIncomplete
  /-- A question for proposals for a word of blanks. -/
  | questionBlank
  /-- The document that proposals for completion need is not accepted. -/
  | noProposals
  /-- Bytes that are not UTF-8. -/
  | notUtf8
  | isDirectory
  | notADirectory
  | fileExists
  | fileMissing
  /-- A name, or a whole path, that is longer than any file's. -/
  | nameTooLong
  /-- A path that holds the character NUL. -/
  | nulInPath
deriving DecidableEq, Repr

/-- What a program says that ends by a fault. -/
def Fault.description : Fault → String
  | numeralTooLong => "an integer has too many digits"
  | notADecimalDigit => "a digit has no decimal value"
  | notANumber => "a tagged number is no number"
  | notACharacter => "a code point is no character"
  | codePointTooLarge => "a code point is too large"
  | emptyNumber => "a tagged number is empty"
  | notATimestamp => "a tagged date is no date"
  | timestampNotText => "a tagged date is no text"
  | stepTooLarge => "a number has too many parts"
  | endless => "a text is defined by itself"
  | circular => "a collection holds itself"
  | impossibleDate => "a date does not exist"
  | notATruthValue => "a tagged truth value is none"
  | nulInCommand => "a shell command holds the character NUL"
  | unknownTransportFailure => "the transport failed in an unknown way"
  | infiniteTime => "a time is infinite"
  | undefinedTime => "a time is not a number"
  | notEncodable => "a value has no form in JSON"
  | environmentFileNotText => "the name of the environment file is not a text"
  | argumentClash => "an argument has a reserved name"
  | questionIncomplete => "a question for completion lacks a part"
  | questionBlank => "a question for completion is about no word"
  | noProposals => "the document for completion is not accepted"
  | notUtf8 => "bytes are not UTF-8"
  | isDirectory => "a directory stands where a file should be"
  | notADirectory => "a file stands where a directory should be"
  | fileExists => "a file stands in the way of a directory"
  | fileMissing => "a file is missing"
  | nameTooLong => "a path is too long"
  | nulInPath => "a path holds the character NUL"

end CommandBook
