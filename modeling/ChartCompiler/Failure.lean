import ChartCompiler.Value.Display

/-!
# Failures

Why an operation gives no result. The causes that users of a chart are told about have a message.
-/

namespace ChartCompiler

/-- What is wrong with a plot descriptor. -/
inductive DescriptorProblem where
  | notAMapping
  | aestheticsNotAMapping
  | missingBinding (name : String)
  | bindingNotASequence (name : String)
  | layersNotAMapping
  deriving DecidableEq

def DescriptorProblem.message : DescriptorProblem → String
  | .notAMapping => "descriptor must be a mapping"
  | .aestheticsNotAMapping => "'aes' must be a mapping"
  | .missingBinding name => s!"descriptor is missing the '{name}' binding"
  | .bindingNotASequence name => s!"binding '{name}' must be a sequence"
  | .layersNotAMapping => "'results' must be a mapping of layer markers"

/-- What is wrong with the scale references of a chart document. -/
inductive ReferenceProblem where
  | declaredTwice (names : List String)
  | undeclared (names : List String)
  deriving DecidableEq

def ReferenceProblem.message : ReferenceProblem → String
  | .declaredTwice names => "scales declared more than once: " ++ ", ".intercalate names
  | .undeclared names => "marks reference undeclared scales: " ++ ", ".intercalate names

/-- Why a path cannot be read, made or written. -/
inductive PathProblem where
  | notFound
  | alreadyExists
  | notADirectory
  | isADirectory
  | nameTooLong
  | holdsNull
  | denied
  deriving DecidableEq

/-- Why a text with halves of surrogate pairs cannot be written as bytes. A single half is told, of
several only where they are. -/
def Text.Halves.message (halves : Text.Halves) : String :=
  let place := halves.place
  let count := halves.offsets.length
  let part := match halves.offsets with
    | [offset] =>
        let code := String.ofList (Text.hexadecimal 4 (TextUnit.half offset).codePoint)
        s!"character '\\u{code}' in position {place}"
    | _ => s!"characters in position {place}-{place + count - 1}"
  "'utf-8' codec can't encode " ++ part ++ ": surrogates not allowed"

/-- The causes of failure. -/
inductive Failure where
  | malformedDescriptor (problem : DescriptorProblem)
  | brokenReferences (problem : ReferenceProblem)
  /-- A file name for a chart that is not a bare name. -/
  | unsafeFileName (given : Value)
  /-- An operation was applied to a kind of value that it is not defined for. -/
  | unsupportedKind
  /-- An operation on arrays was applied to elements that it is not defined for. -/
  | unsupportedElements
  /-- A value has the right kind but no meaning for the operation. -/
  | unusableValue
  /-- A number is too large for binary64. -/
  | numberTooLarge
  | zeroDivisor
  /-- A document lacks a member that must be there. -/
  | absentMember
  /-- A value lacks an operation that must be there. -/
  | absentOperation
  /-- Bytes are not well-formed text. -/
  | malformedText
  /-- A text cannot be written as bytes. -/
  | unwritableText (halves : Text.Halves)
  | malformedJson
  /-- Lists or maps lie too deep inside each other. -/
  | nestedTooDeeply
  | path (problem : PathProblem)

/-- The message of a failure whose text is told to users. -/
def Failure.message? : Failure → Option String
  | .malformedDescriptor problem => some problem.message
  | .brokenReferences problem => some problem.message
  | .unsafeFileName given =>
      some ("file name must be a bare name of letters, digits, '.', '_' or '-', got "
        ++ given.display)
  | _ => none

end ChartCompiler
