import MappedTables.Image.File
import MappedTables.Proofs.Image.Presentation
import MappedTables.Proofs.Storage.Created
import MappedTables.Proofs.VersionTag.Source

namespace MappedTables

/-!
The tag of a binary file.

A relocated image is written as its octets.  The file is found under the path
that was written, and the tag shown for it is the tag of the draft that the image
was built from.
-/

namespace DraftHistory

variable {history : DraftHistory}

/-- The tag at the front of the version area is the tag of the draft. -/
theorem Kept.shown_versionField (kept : history.Kept) :
    shownFor (versionOfArea history.draft.versionField.toArray) = history.draft.version := by
  have stop : history.draft.versionField.toArray.findIdx? (· = 0) =
      some (Utf8.ofString history.draft.version).size := kept.findIdx?_versionField
  have tag : history.draft.versionField.toArray.extract 0
      (Utf8.ofString history.draft.version).size = Utf8.ofString history.draft.version := by
    simp [Draft.versionField]
  rw [versionOfArea, stop]
  simp only [tag]
  rw [Utf8.ofString, Utf8.characters?_encode]
  simp only
  rcases kept.version with none | accepted
  · rw [none]
    rfl
  · rw [if_pos accepted, String.ofList_toList]
    rfl

/-- The header of a relocated image is read from the front of its octets. -/
theorem decode_front (draft : Draft) (addressing : Addressing) :
    StoredHeader.decode
        ((draft.encodedWith addressing).toArray.extract 0 leastContainerSize) =
      draft.encodedHeader addressing := by
  have size : (StoredHeader.encode (draft.encodedHeader addressing)).length =
      leastContainerSize := length_encode _
  have front : (draft.encodedWith addressing).toArray.extract 0 leastContainerSize =
      (StoredHeader.encode (draft.encodedHeader addressing)).toArray := by
    simp [Draft.encodedWith, List.append_assoc, <- size]
  rw [front, decode_encode]

/-- The tag shown for the octets of a relocated image is the tag of the draft. -/
theorem Kept.shown_binary (kept : history.Kept) :
    shownFor (versionOfBinary (history.draft.encodedWith .distances).toArray) =
      history.draft.version := by
  have bounded := kept.bounded
  have limit := bounded.extent_lt
  have header := decode_front history.draft .distances
  have rows := history.draft.rowsArea_eq
  have area := history.draft.versionArea_eq
  have stored := history.draft.rowsArea_le_stop
  have rounded := history.draft.stop_le_extent
  have size : (history.draft.encodedWith .distances).toArray.size = history.draft.extent := by
    rw [List.size_toArray, bounded.length_encodedWith]
  have least : leastContainerSize = 80 := rfl
  have long : ¬ history.draft.extent < leastContainerSize := by omega
  have mode : (history.draft.encodedHeader .distances).mode = .ok .relocatable :=
    AddressMode.ofFlag_flag .relocatable
  have reference : (history.draft.encodedHeader .distances).versionReference =
      .ok (.relocatable (UInt64.ofNat history.draft.versionArea)) := by
    rw [ContainerHeader.versionReference, mode]
    rfl
  have position : (UInt64.ofNat history.draft.versionArea).toNat = history.draft.versionArea :=
    UInt64.toNat_ofNat_of_lt' (by simp only [UInt64.size]; omega)
  have seekable : ¬ filePositionLimit <= history.draft.versionArea := by
    unfold filePositionLimit
    omega
  have field : Bytes.slice (history.draft.encodedWith .distances).toArray
      history.draft.versionArea versionAreaSize = history.draft.versionField.toArray := by
    rcases bounded.version_stands .distances with ⟨front, back, place, parts⟩
    rw [parts, <- place, <- bounded.length_versionField, Bytes.slice_append]
  unfold versionOfBinary
  simp only [size, long, if_false, header, bounded.validate_encodedHeader, mode, reference,
    Reference.word, position, seekable, field, Outcome.ok_bind, ne_eq, not_true_eq_false]
  exact kept.shown_versionField

end DraftHistory
end MappedTables
