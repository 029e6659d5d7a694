import Pactline.Model.StageClaim

/-!
# Text artifacts

What the agent gets to see of a text or Markdown file that a conversation refers to.
-/

set_option autoImplicit false

namespace Pactline.Artifact

/-- The limits of `artifact.go` 15-17, in bytes. -/
def maxFileSize : Nat := 20 <<< 20

def maxTextBytes : Nat := 512 <<< 10

def maxTextOutputBytes : Nat := 48 <<< 10

structure TextDigest where
  content : String
  headings : List String
  truncated : Bool

/-- `limitRunes`, `reader.go` 316-322. -/
def limitRunes (value : String) (maximum : Nat) : String :=
  if value.length ≤ maximum then value else String.ofList (value.toList.take maximum) ++ "…"

/-- The heading that stands on a line, `reader.go` 162-168. -/
def heading (line : String) : Option String :=
  match (trimSpace line).toList with
  | '#' :: rest =>
    let heading := trimSpace (String.ofList (rest.dropWhile (· = '#')))
    if heading = "" then none else some (limitRunes heading 200)
  | _ => none

/-- The loop that drops bytes from the end until the others are valid, as the text of what is left,
`reader.go` 153-155. -/
def validText (encoded : ByteArray) : Nat → String
  | 0 => ""
  | n + 1 => (String.fromUTF8? (encoded.extract 0 (n + 1))).getD (validText encoded n)

/-- `inspectText`, `reader.go` 133-172, on a file that can be read. -/
def inspectText (file : ByteArray) (markdown : Bool) : Except String TextDigest :=
  let encoded := file.extract 0 (maxTextBytes + 1)
  match String.fromUTF8? encoded with
  | none => .error "conversation artifact type is unsupported: text artifact is not UTF-8"
  | some whole =>
    let sourceTruncated := decide (maxTextBytes < encoded.size)
    let encoded := if sourceTruncated then encoded.extract 0 maxTextBytes else encoded
    let outputTruncated := decide (maxTextOutputBytes < encoded.size)
    -- what is not cut to the second limit has not been cut to the first
    let text := if outputTruncated then validText encoded maxTextOutputBytes else whole
    let content := trimSpace text
    .ok {
      content
      headings := if markdown then ((content.splitOn "\n").filterMap heading).take 50 else []
      truncated := sourceTruncated || outputTruncated }

end Pactline.Artifact
