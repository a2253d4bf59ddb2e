import MappedTables.Proofs.Image.Loaded
import MappedTables.Proofs.VersionTag.Binary

namespace MappedTables
namespace VersionedFile

/-!
The tag of a source and the tag of what is made from it.

Three readers give the tag of a source: the draft that is read from it, the
accessor that looks at the source alone, and the accessor that looks at the
binary file written from the draft.  The first and the third always agree.  The
second agrees with them exactly if it does not misread the first line.
-/

theorem versionShown_of_read {kind : VersionedFile} {path : String} {host : Host}
    {stored : StoredFile} (read : host.files.read path = .ok stored) :
    (kind.versionShown path host).1 = shownFor (kind.versionOf stored.content) := by
  rw [versionShown, versionAt, read]
  simp only
  cases kind.versionOf stored.content with
  | ok tag => rfl
  | error error => rfl

/-- A draft that is read from a file is read from the text in the file. -/
theorem text_of_ofFile {files : FileSystem} {path : String} {draft : Draft}
    (parsed : Draft.ofFile files path = .ok draft) :
    exists stored text, files.read path = .ok stored ∧ stored.content = Utf8.encode text ∧
      Draft.ofText text = .ok draft := by
  unfold Draft.ofFile at parsed
  cases read : files.read path with
  | error fault =>
      rw [read] at parsed
      cases parsed
  | ok stored =>
      rw [read] at parsed
      cases decoded : Utf8.characters? stored.content with
      | none =>
          simp only [decoded] at parsed
          cases parsed
      | some text =>
          simp only [decoded] at parsed
          exact ⟨stored, text, rfl, Utf8.characters?_eq_some_iff.mp decoded, parsed⟩

/-- The tag shown for the file that a relocated image was written to. -/
theorem versionShown_of_writeTo {history : DraftHistory} (kept : history.Kept) {base : UInt64}
    (aligned : base.toNat % headerAlignment = 0) {files after : FileSystem} {path : String}
    (written : Image.writeTo ⟨⟨base, (history.draft.encodedWith .distances).toArray⟩⟩ files path =
      .ok after)
    {stored : StoredFile} {reader : Host} (same : reader.files = after)
    (read : after.read path = .ok stored) :
    (binary.versionShown path reader).1 = history.draft.version := by
  have content : stored.content = (history.draft.encodedWith .distances).toArray := by
    rw [Image.writeTo, history.draft.relocatedBytes_eq aligned, Outcome.ok_bind] at written
    cases stores : files.write path (history.draft.encodedWith .distances).toArray with
    | error fault =>
        rw [stores] at written
        cases written
    | ok result =>
        rw [stores] at written
        cases written
        exact FileSystem.content_of_write stores read
  rw [versionShown_of_read (same ▸ read), content]
  exact kept.shown_binary

/-- For a file from which a draft is read, the tag shown for the source is that of the draft
exactly if the first line is not misread; the tag shown for the binary file made from the draft
always is. -/
theorem tags_agree_iff (host : Host) (path : String) (draft : Draft)
    (parsed : Draft.ofFile host.files path = .ok draft) :
    exists stored text, host.files.read path = .ok stored ∧ stored.content = Utf8.encode text ∧
      ((source.versionShown path host).1 = draft.version <-> ¬ Misread (leadingLine text)) ∧
      forall base, draft.FitsAt base ->
        exists live relocated, draft.build base = .ok live ∧
          live.relocate = (.ok (), relocated) ∧
          forall (files after : FileSystem) (target : String) (written : StoredFile)
            (reader : Host),
            relocated.writeTo files target = .ok after -> after.read target = .ok written ->
              reader.files = after ->
                (binary.versionShown target reader).1 = draft.version := by
  rcases text_of_ofFile parsed with ⟨stored, text, read, content, described⟩
  have kept := DraftHistory.kept_ofText described
  refine ⟨stored, text, read, content, ?_, fun base fits => ?_⟩
  · rw [versionShown_of_read read, content, (Draft.holds_ofText described).1,
      SourceParts.version_lines]
    exact shown_eq_iff text
  · refine ⟨_, _, kept.bounded.build_eq_ok base fits.aligned, fits.relocate_eq kept.bounded, ?_⟩
    intro files after target written reader writes reads same
    exact versionShown_of_writeTo kept fits.aligned writes same reads

theorem ofFile_hostHolding (text : List Char) :
    Draft.ofFile (hostHolding (Utf8.encode text)).files "kb" = Draft.ofText text := by
  rw [Draft.ofFile, read_hostHolding]
  simp only [Utf8.characters?_encode]

/-- A source with a tag, a head row and a data row. -/
def taggedSource : List Char :=
  "VERSION=2.0.1\nHhead\n\ndata\n".toList

/-- What it describes. -/
def taggedDraft : Draft where
  version := "2.0.1"
  head := ⟨#[⟨#[72, 104, 101, 97, 100, 0], #[0]⟩], 16⟩
  data := ⟨#[⟨#[100, 97, 116, 97, 0], #[0]⟩], 16⟩

def taggedHost : Host :=
  hostHolding (Utf8.encode taggedSource)

theorem tags_agree_iff_tagged :
    Draft.ofFile taggedHost.files "kb" = .ok taggedDraft ∧ taggedDraft.FitsAt 4096 ∧
      exists stored text, taggedHost.files.read "kb" = .ok stored ∧
        stored.content = Utf8.encode text ∧
        ((source.versionShown "kb" taggedHost).1 = taggedDraft.version <->
          ¬ Misread (leadingLine text)) ∧
        forall base, taggedDraft.FitsAt base ->
          exists live relocated, taggedDraft.build base = .ok live ∧
            live.relocate = (.ok (), relocated) ∧
            forall (files after : FileSystem) (target : String) (written : StoredFile)
              (reader : Host),
              relocated.writeTo files target = .ok after ->
                after.read target = .ok written -> reader.files = after ->
                  (binary.versionShown target reader).1 = taggedDraft.version := by
  have described : Draft.ofText taggedSource = .ok taggedDraft := by decide +kernel
  have parsed : Draft.ofFile taggedHost.files "kb" = .ok taggedDraft :=
    (ofFile_hostHolding taggedSource).trans described
  have fits : taggedDraft.FitsAt 4096 :=
    Draft.fitsAt_of_lt (by decide) (by decide) (by decide)
  exact ⟨parsed, fits, tags_agree_iff taggedHost "kb" taggedDraft parsed⟩

/-- A tag, blanks up to the last octet that is looked at, and a word. -/
def shortenedSource : List Char :=
  "VERSION=1".toList ++ List.replicate 247 ' ' ++ ['x', '\n']

def shortenedHost : Host :=
  hostHolding (Utf8.encode shortenedSource)

/-- The draft has no tag, for the whole line gives none; the tag shown is the one in front of
the blanks. -/
theorem shortenedSource_disagrees :
    exists draft, Draft.ofFile shortenedHost.files "kb" = .ok draft ∧
      draft.version = "" ∧ (source.versionShown "kb" shortenedHost).1 = "1" := by
  refine ⟨{}, ?_, rfl, ?_⟩
  · rw [shortenedHost, ofFile_hostHolding]
    decide +kernel
  · have split : leadingLine shortenedSource =
        ("VERSION=1".toList ++ List.replicate 247 ' ') ++ ['x'] := by decide +kernel
    have size : (Utf8.encode ("VERSION=1".toList ++ List.replicate 247 ' ')).size =
        versionLineLimit := by decide +kernel
    have given : versionOfLine? ("VERSION=1".toList ++ List.replicate 247 ' ') = some "1" := by
      decide +kernel
    rw [shortenedHost, versionShown_of_read (read_hostHolding _)]
    change shownFor (versionOfSource (Utf8.encode shortenedSource)) = "1"
    rw [versionOfSource_of_cut split size, given]
    rfl

end VersionedFile
end MappedTables
