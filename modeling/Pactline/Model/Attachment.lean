import Pactline.Model.StageClaim

/-!
# Attachments: names, media types and content

The checks an uploaded file passes and the kind of preview it gets
(`internal/domain/attachment.go`), with the parts of Go's standard library they use:
`filepath.Ext` and `filepath.Base`, and the content sniffing of `http.DetectContentType`.
Two things are taken from outside: the lower case of runes beyond ASCII and the table behind
`mime.TypeByExtension`, which Go fills from the host's own files.
-/

set_option autoImplicit false

namespace Pactline

/-- What the code reads from its host: the Unicode case table and the MIME types by file
extension (the empty string where there is none). -/
structure Platform where
  lowerRune : Char → Char
  typeByExtension : String → String

namespace Platform

/-- `unicode.ToLower`, exact on ASCII. -/
def lowerChar (platform : Platform) (c : Char) : Char :=
  if c.toNat < 128 then c.toLower else platform.lowerRune c

/-- `strings.ToLower`. -/
def toLower (platform : Platform) (s : String) : String :=
  String.ofList (s.toList.map platform.lowerChar)

end Platform

/-! ## Paths -/

/-- `filepath.Ext`: the last element from its last dot on. -/
def filepathExt (path : String) : String :=
  let reversed := path.toList.reverse
  let suffix := reversed.takeWhile fun c => c ≠ '.' && c ≠ '/'
  match reversed.drop suffix.length with
  | '.' :: _ => String.ofList ('.' :: suffix.reverse)
  | _ => ""

/-- `filepath.Base`: the last element without its trailing slashes. -/
def filepathBase (path : String) : String :=
  if path = "" then "."
  else
    let reversed := path.toList.reverse.dropWhile (· = '/')
    if reversed.isEmpty then "/"
    else String.ofList (reversed.takeWhile (· ≠ '/')).reverse

/-! ## Media types -/

/-- A media type without its parameters, trimmed and in lower case. -/
def Platform.essence (platform : Platform) (mediaType : String) : String :=
  platform.toLower (trimSpace (String.ofList (mediaType.toList.takeWhile (· ≠ ';'))))

def octetStream : String := "application/octet-stream"

/-- `NormalizeAttachmentMediaType` (`attachment.go:106-115`): the given type, or
the one the extension stands for. -/
def normalizeAttachmentMediaType (platform : Platform) (filename mediaType : String) : String :=
  let mediaType := platform.essence mediaType
  if mediaType ≠ "" ∧ mediaType ≠ octetStream then mediaType
  else
    let inferred := platform.typeByExtension (platform.toLower (filepathExt filename))
    if inferred ≠ "" then platform.essence inferred else octetStream

def deniedAttachmentExtensions : List String :=
  [".apk", ".app", ".bat", ".bin", ".cmd", ".com", ".cpl", ".dll", ".dmg", ".exe", ".hta",
    ".img", ".iso", ".jar", ".js", ".jse", ".lnk", ".msi", ".msp", ".ps1", ".reg", ".scr",
    ".sh", ".vbe", ".vbs", ".wsf"]

def deniedAttachmentMediaTypes : List String :=
  ["application/java-archive", "application/vnd.android.package-archive",
    "application/x-dosexec", "application/x-executable", "application/x-msdownload",
    "application/x-sh"]

def maxAttachmentBytes : Int := 100 * 1024 * 1024

/-- `ValidateAttachmentMetadata` (`attachment.go:82-104`). -/
@[irreducible] def validateAttachmentMetadata (platform : Platform)
    (filename mediaType : String) (size : Int) : Except DomainError Unit := do
  let filename := trimSpace filename
  if filename = "" ∨ filename = "." ∨ filename = ".." then
    throw (.invalidInput "attachment filename is required")
  if filepathBase filename ≠ filename ∨
      filename.toList.any (fun c => c = '/' || c = '\\' || c.toNat = 0) then
    throw (.invalidInput "attachment filename must not contain a path")
  if size ≤ 0 ∨ maxAttachmentBytes < size then
    throw (.invalidInput "attachment size must be between 1 byte and 100 MiB")
  if platform.essence mediaType = "" then
    throw (.invalidInput "attachment media type is required")
  if platform.toLower (filepathExt filename) ∈ deniedAttachmentExtensions then
    throw (.invalidInput "this attachment file type is not allowed")
  if platform.essence mediaType ∈ deniedAttachmentMediaTypes then
    throw (.invalidInput "this attachment media type is not allowed")

inductive AttachmentPreviewKind
  | image
  | markdown
  | html
  | download
deriving DecidableEq, Repr

/-- `AttachmentPreview` (`attachment.go:117-130`): images first, then Markdown by
type or by extension, then HTML by type or by extension. -/
def attachmentPreview (platform : Platform) (filename mediaType : String) :
    AttachmentPreviewKind :=
  let mediaType := normalizeAttachmentMediaType platform filename mediaType
  let ext := platform.toLower (filepathExt filename)
  if mediaType.toList.take 6 = "image/".toList ∧ mediaType ≠ "image/svg+xml" then .image
  else if mediaType = "text/markdown" ∨ ext = ".md" ∨ ext = ".markdown" then .markdown
  else if mediaType = "text/html" ∨ ext = ".html" ∨ ext = ".htm" then .html
  else .download

/-! ## Content -/

/-- A byte string. -/
abbrev Bytes := List UInt8

/-- The bytes of an ASCII text. -/
def asciiBytes (s : String) : Bytes := s.toList.map fun c => UInt8.ofNat c.toNat

/-- The leading white space `bytes.TrimSpace` removes, in UTF-8. -/
def trimLeftSpace : Bytes → Bytes
  | 0xC2 :: 0x85 :: rest => trimLeftSpace rest
  | 0xC2 :: 0xA0 :: rest => trimLeftSpace rest
  | 0xE1 :: 0x9A :: 0x80 :: rest => trimLeftSpace rest
  | 0xE2 :: 0x80 :: b :: rest =>
    if (0x80 ≤ b ∧ b ≤ 0x8A) ∨ b = 0xA8 ∨ b = 0xA9 ∨ b = 0xAF then trimLeftSpace rest
    else 0xE2 :: 0x80 :: b :: rest
  | 0xE2 :: 0x81 :: 0x9F :: rest => trimLeftSpace rest
  | 0xE3 :: 0x80 :: 0x80 :: rest => trimLeftSpace rest
  | b :: rest => if (0x09 ≤ b ∧ b ≤ 0x0D) ∨ b = 0x20 then trimLeftSpace rest else b :: rest
  | [] => []

/-- `ValidateAttachmentContentSignature`: no executable formats. -/
def validateAttachmentContentSignature (header : Bytes) : Except DomainError Unit :=
  if [asciiBytes "MZ", 0x7F :: asciiBytes "ELF", asciiBytes "#!", [0xFE, 0xED, 0xFA, 0xCE],
      [0xCE, 0xFA, 0xED, 0xFE], [0xFE, 0xED, 0xFA, 0xCF], [0xCF, 0xFA, 0xED, 0xFE]].any
        fun signature => signature.isPrefixOf header then
    .error (.invalidInput "executable attachment content is not allowed")
  else .ok ()

/-! ### `http.DetectContentType` -/

def sniffIsWhitespace (b : UInt8) : Bool :=
  b = 0x09 || b = 0x0A || b = 0x0C || b = 0x0D || b = 0x20

/-- A tag name after white space, in any case, ended by a space or `>`. -/
def sniffHTML (tag : String) (data : Bytes) : Bool :=
  let name := asciiBytes tag
  let upper : Bytes := (name.zip data).map fun p =>
    if 0x41 ≤ p.1 ∧ p.1 ≤ 0x5A then p.2 &&& 0xDF else p.2
  name.length < data.length && upper = name &&
    (match data[name.length]? with | some b => b = 0x20 || b = 0x3E | none => false)

/-- Agreement with a pattern on the masked bits. -/
def sniffMasked (mask pattern data : Bytes) : Bool :=
  pattern.length ≤ data.length &&
    (mask.zip data).map (fun p => p.1 &&& p.2) = pattern

def sniffMP4 (data : Bytes) : Bool :=
  match data with
  | b₀ :: b₁ :: b₂ :: b₃ :: rest =>
    let size := ((b₀.toNat * 256 + b₁.toNat) * 256 + b₂.toNat) * 256 + b₃.toNat
    12 ≤ data.length && size ≤ data.length && size % 4 = 0 && rest.take 4 = asciiBytes "ftyp" &&
      (List.range (size / 4)).any fun i =>
        2 ≤ i && i ≠ 3 && (data.drop (4 * i)).take 3 = asciiBytes "mp4"
  | _ => false

def sniffText (data : Bytes) : Bool :=
  data.all fun b =>
    !(b ≤ 0x08 || b = 0x0B || (0x0E ≤ b && b ≤ 0x1A) || (0x1C ≤ b && b ≤ 0x1F))

def sniffTags : List String :=
  ["<!DOCTYPE HTML", "<HTML", "<HEAD", "<SCRIPT", "<IFRAME", "<H1", "<DIV", "<FONT", "<TABLE",
    "<A", "<STYLE", "<TITLE", "<B", "<BODY", "<BR", "<P", "<!--"]

def zeros (n : Nat) : Bytes := List.replicate n 0

def ones (n : Nat) : Bytes := List.replicate n 0xFF

/-- The signatures after the tags, in order; each with the type it stands for. -/
def sniffSignatures : List (Bytes × Bytes × String) :=
  [(ones 5, asciiBytes "%PDF-", "application/pdf"),
    (ones 11, asciiBytes "%!PS-Adobe-", "application/postscript"),
    (ones 2 ++ zeros 2, [0xFE, 0xFF, 0, 0], "text/plain; charset=utf-16be"),
    (ones 2 ++ zeros 2, [0xFF, 0xFE, 0, 0], "text/plain; charset=utf-16le"),
    (ones 3 ++ zeros 1, [0xEF, 0xBB, 0xBF, 0], "text/plain; charset=utf-8"),
    (ones 4, [0, 0, 1, 0], "image/x-icon"), (ones 4, [0, 0, 2, 0], "image/x-icon"),
    (ones 2, asciiBytes "BM", "image/bmp"), (ones 6, asciiBytes "GIF87a", "image/gif"),
    (ones 6, asciiBytes "GIF89a", "image/gif"),
    (ones 4 ++ zeros 4 ++ ones 6, asciiBytes "RIFF" ++ zeros 4 ++ asciiBytes "WEBPVP",
      "image/webp"),
    (ones 8, [0x89, 0x50, 0x4E, 0x47, 0x0D, 0x0A, 0x1A, 0x0A], "image/png"),
    (ones 3, [0xFF, 0xD8, 0xFF], "image/jpeg"),
    (ones 4 ++ zeros 4 ++ ones 4, asciiBytes "FORM" ++ zeros 4 ++ asciiBytes "AIFF", "audio/aiff"),
    (ones 3, asciiBytes "ID3", "audio/mpeg"),
    (ones 5, asciiBytes "OggS" ++ zeros 1, "application/ogg"),
    (ones 8, asciiBytes "MThd" ++ [0, 0, 0, 6], "audio/midi"),
    (ones 4 ++ zeros 4 ++ ones 4, asciiBytes "RIFF" ++ zeros 4 ++ asciiBytes "AVI ", "video/avi"),
    (ones 4 ++ zeros 4 ++ ones 4, asciiBytes "RIFF" ++ zeros 4 ++ asciiBytes "WAVE", "audio/wave")]

/-- The signatures after `video/mp4`. -/
def sniffLateSignatures : List (Bytes × Bytes × String) :=
  [(ones 4, [0x1A, 0x45, 0xDF, 0xA3], "video/webm"),
    (zeros 34 ++ ones 2, zeros 34 ++ asciiBytes "LP", "application/vnd.ms-fontobject"),
    (ones 4, [0, 1, 0, 0], "font/ttf"), (ones 4, asciiBytes "OTTO", "font/otf"),
    (ones 4, asciiBytes "ttcf", "font/collection"), (ones 4, asciiBytes "wOFF", "font/woff"),
    (ones 4, asciiBytes "wOF2", "font/woff2"),
    (ones 3, [0x1F, 0x8B, 0x08], "application/x-gzip"),
    (ones 4, asciiBytes "PK" ++ [3, 4], "application/zip"),
    (ones 7, asciiBytes "Rar!" ++ [0x1A, 7, 0], "application/x-rar-compressed"),
    (ones 8, asciiBytes "Rar!" ++ [0x1A, 7, 1, 0], "application/x-rar-compressed"),
    (ones 4, [0x00, 0x61, 0x73, 0x6D], "application/wasm")]

/-- `http.DetectContentType` on the first 512 bytes. -/
def detectContentType (content : Bytes) : String :=
  let data := content.take 512
  let text := data.dropWhile sniffIsWhitespace
  let firstOf (signatures : List (Bytes × Bytes × String)) : Option String :=
    (signatures.find? fun s => sniffMasked s.1 s.2.1 data).map fun s => s.2.2
  if sniffTags.any (sniffHTML · text) then "text/html; charset=utf-8"
  else if sniffMasked (ones 5) (asciiBytes "<?xml") text then "text/xml; charset=utf-8"
  else match firstOf sniffSignatures with
    | some mediaType => mediaType
    | none =>
      if sniffMP4 data then "video/mp4"
      else match firstOf sniffLateSignatures with
        | some mediaType => mediaType
        | none => if sniffText text then "text/plain; charset=utf-8" else octetStream

/-! ## Rows -/

inductive AttachmentProvider
  | localDisk
  | oss
  | cos
deriving DecidableEq, Repr

inductive UploadStatus
  | pending
  | completed
  | expired
deriving DecidableEq, Repr

/-- A row of `attachment_upload_sessions`. -/
structure AttachmentUploadSession where
  taskId : TaskId
  uploaderId : Id
  provider : AttachmentProvider
  objectKey : String
  filename : String
  mediaType : String
  expectedSize : Int
  status : UploadStatus
  expiresAt : Time
  attachmentId : Option Id
deriving DecidableEq, Repr

/-- A row of `task_attachments`. -/
structure TaskAttachment where
  taskId : TaskId
  uploaderId : Id
  filename : String
  mediaType : String
  sizeBytes : Int
  provider : AttachmentProvider
  objectKey : String
  version : Nat
  deletedAt : Option Time
  cleanupAttemptedAt : Option Time
  cleanupError : Option String
  cleanedAt : Option Time
deriving DecidableEq, Repr

def maxActiveTaskAttachments : Nat := 100

end Pactline
