import Pactline.Results.Attachments

/-!
# Scripts in served attachments

An attachment is served with its stored media type, and with a sandbox policy if the preview kind is
HTML. The preview kind looks at the extension before it looks at HTML types, so a page stored under
a Markdown name is served inline as a page, without the policy. It is the only way.
-/

set_option autoImplicit false

namespace Pactline

variable {mediaType : String}

/-- The types of documents in which a browser runs scripts. -/
def scriptTypes : List String := ["text/html", "application/xhtml+xml", "image/svg+xml"]

/-- A media type as a browser reads it: without parameters and in lower ASCII case. -/
def browserType (mediaType : String) : String :=
  String.ofList ((trimSpace (String.ofList (mediaType.toList.takeWhile (· ≠ ';')))).toList.map
    Char.toLower)

/-- The type is one of a document in which scripts run. -/
def ScriptCapable (mediaType : String) : Prop := browserType mediaType ∈ scriptTypes
deriving Decidable

/-- The name has the extension of a Markdown document. -/
def NamedMarkdown (platform : Platform) (filename : String) : Prop :=
  platform.toLower (filepathExt filename) = ".md" ∨
    platform.toLower (filepathExt filename) = ".markdown"

section Types

variable (platform : Platform)

theorem toNat_lt_of_toLower {c : Char} (h : c.toLower.toNat < 128) : c.toNat < 128 := by
  unfold Char.toLower at h
  split at h
  case isTrue hupper =>
    have hle : c.val ≤ 90 := hupper.2
    have hnat : c.val.toNat ≤ 90 := hle
    exact Nat.lt_of_le_of_lt hnat (by decide)
  · exact h

/-- The code reads such a type as a browser does. -/
theorem essence_of_scriptCapable (h : ScriptCapable mediaType) :
    platform.essence mediaType ∈ scriptTypes := by
  have hall : (scriptTypes.all fun s => s.toList.all fun c => decide (c.toNat < 128)) = true := by
    decide
  have hascii : ∀ s ∈ scriptTypes, ∀ c ∈ s.toList, c.toNat < 128 := by
    intro s hs c hc
    have hchars := List.all_eq_true.mp (List.all_eq_true.mp hall s hs)
    exact of_decide_eq_true (hchars c hc)
  have heq : platform.essence mediaType = browserType mediaType := by
    refine congrArg String.ofList (List.map_congr_left fun c hc => ?_)
    have hlower : c.toLower.toNat < 128 := by
      refine hascii _ h c.toLower ?_
      unfold browserType
      rw [String.toList_ofList]
      exact List.mem_map.mpr ⟨c, hc, rfl⟩
    unfold Platform.lowerChar
    rw [if_pos (toNat_lt_of_toLower hlower)]
  rw [heq]
  exact h

theorem normalize_of_scriptCapable (filename : String) (h : ScriptCapable mediaType) :
    normalizeAttachmentMediaType platform filename mediaType ∈ scriptTypes := by
  have hessence := essence_of_scriptCapable platform h
  have hgiven : ∀ s ∈ scriptTypes, s ≠ "" ∧ s ≠ octetStream := by decide
  unfold normalizeAttachmentMediaType
  rw [if_pos (hgiven _ hessence)]
  exact hessence

/-- The preview kind of a document with scripts: Markdown by its name, a page, or a download. -/
theorem preview_of_scriptCapable (filename : String) (h : ScriptCapable mediaType) :
    (NamedMarkdown platform filename ∧
      attachmentPreview platform filename mediaType = .markdown) ∨
    (¬ NamedMarkdown platform filename ∧
      (attachmentPreview platform filename mediaType = .html ∨
        attachmentPreview platform filename mediaType = .download)) := by
  have hnormal := normalize_of_scriptCapable platform filename h
  have hkinds : ∀ s ∈ scriptTypes, ¬ (s.toList.take 6 = "image/".toList ∧ s ≠ "image/svg+xml") ∧
      s ≠ "text/markdown" := by decide
  obtain ⟨himage, hmarkdown⟩ := hkinds _ hnormal
  unfold attachmentPreview
  rw [if_neg himage]
  by_cases hname : NamedMarkdown platform filename
  · rw [if_pos (.inr hname)]
    exact .inl ⟨hname, rfl⟩
  · rw [if_neg fun hor => hor.elim hmarkdown hname]
    refine .inr ⟨hname, ?_⟩
    split
    · exact .inl rfl
    · exact .inr rfl

end Types

/-- A document with scripts that is sent inline carries the sandbox policy, unless it is stored
under a Markdown name and no download is asked for. -/
theorem inline_scripts_sandboxed_iff (platform : Platform) (attachment : TaskAttachment)
    (disposition : String) :
    ((serveAttachmentContent platform attachment disposition).inline = true →
        ScriptCapable (serveAttachmentContent platform attachment disposition).contentType →
        (serveAttachmentContent platform attachment disposition).contentSecurityPolicy =
          some "sandbox allow-scripts") ↔
      ¬ (disposition ≠ "attachment" ∧ ScriptCapable attachment.mediaType ∧
        NamedMarkdown platform attachment.filename) := by
  by_cases hscript : ScriptCapable attachment.mediaType
  · by_cases hdownload : disposition = "attachment"
    · simp [serveAttachmentContent, hdownload]
    · rcases preview_of_scriptCapable platform attachment.filename hscript with
        ⟨hname, hkind⟩ | ⟨hname, hkind | hkind⟩
      · simp [serveAttachmentContent, hkind, hdownload, hscript, hname]
      · simp [serveAttachmentContent, hkind, hdownload, hname]
      · simp [serveAttachmentContent, hkind, hname]
  · have hcontent :
        ¬ ScriptCapable (serveAttachmentContent platform attachment disposition).contentType :=
      hscript
    exact ⟨fun _ h => hscript h.2.1, fun _ _ h => absurd h hcontent⟩

/-- A page with a script. -/
def scriptPage : Bytes := asciiBytes "<html><script>alert(1)</script></html>"

/-- The page is uploaded to Task 1 under the name `notes.md` with its own type. -/
def pageSchedule : Schedule :=
  [.connect (.script [sampleCreate 1 none []]),
    .connect (AttachmentService.startUpload asciiPlatform 1 7 11 "notes.md" "text/html" 38
      fun _ => 200),
    .connect (AttachmentService.uploadLocal 1 11 7 scriptPage 38 300),
    .connect (AttachmentService.completeUpload asciiPlatform 11 7 1 sampleOperation 21 400)] ++
    advances 0 10 ++ advances 1 6 ++ advances 2 7 ++ advances 3 26

/-- It is accepted, and served inline as a page without a policy. -/
theorem markdown_named_page_unsandboxed :
    ∃ cfg attachment, runFrom asciiPlatform Db.empty pageSchedule = some cfg ∧
      cfg.db.attachments.lookup 21 = some attachment ∧
      (serveAttachmentContent asciiPlatform attachment "inline").inline = true ∧
      (serveAttachmentContent asciiPlatform attachment "inline").contentType = "text/html" ∧
      (serveAttachmentContent asciiPlatform attachment "inline").contentSecurityPolicy = none := by
  simp only [exists_and_left]
  decide +kernel

end Pactline
