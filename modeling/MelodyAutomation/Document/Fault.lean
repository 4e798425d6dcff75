import MelodyAutomation.Failure

/-!
# Faults of documents

Why a text is no valid document. What cannot be read as the number, truth value
or date that its tag promises and a character code out of range are failures of
their own; any other fault is a failure of the document.
-/

namespace MelodyAutomation
namespace Document

/-- Why a text is no valid document. -/
inductive Fault
  | characterNotAllowed
  | unexpectedCharacter
  | unexpectedEnd
  | unexpectedToken
  | separatorInsideQuotes
  | missingValueIndicator
  | misplacedEntry
  | misplacedKey
  | misplacedValue
  | malformedDirective
  | repeatedDirective
  | unsupportedVersion
  | malformedName
  | malformedTag
  | undefinedTagHandle
  | malformedEscape
  | malformedBlockHeader
  | repeatedAnchor
  | undefinedAlias
  | severalDocuments
  | unknownTag
  | collectionAsKey
  | nothingToMerge
  | wrongKindOfNode
  | codeOutOfRange
  | codeTooLarge
  | malformedNumber
  | missingNumber
  | malformedTruthValue
  | noDate
  | collectionAsDate
  | impossibleDate
  | malformedOctets
  | endlessDefault
  | tooDeep
  deriving DecidableEq, Repr

/-- The failure that a fault amounts to. -/
def Fault.failure {R : Type} : Fault → Failure R
  | codeOutOfRange => .malformed
  | codeTooLarge => .overflow
  | malformedNumber => .malformed
  | missingNumber => .outOfRange
  | malformedTruthValue => .unknownKey
  | noDate => .notUnderstood
  | collectionAsDate => .illTyped
  | impossibleDate => .malformed
  | endlessDefault => .tooDeep
  | tooDeep => .tooDeep
  | _ => .document

end Document
end MelodyAutomation
