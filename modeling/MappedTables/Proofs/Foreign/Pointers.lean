import MappedTables.Proofs.Foreign.Requests
import MappedTables.Proofs.Reader.Moved

namespace MappedTables
namespace Foreign

/-!
Pointers that are handed out.

A caller obtains a pointer by attaching a segment or by mapping a descriptor.
The pointer leads to the octets of the file from then on, through any requests
that follow, until the caller gives it back: later mappings lie at higher
addresses as long as there are addresses left, and no request changes a file.
-/

/-- A pointer to the container in a file was obtained by a request that succeeded. -/
inductive Obtains (id : FileId) (before : Library) : UInt64 -> Library -> Prop where
  | attached (cells : Option Attachment) (name : TextArgument) (config : SegmentConfig)
      (attachment : Attachment) (after : Library)
      (named : configOf name = .ok config)
      (found : before.host.files.find config.objectPath = .ok (.file id))
      (succeeds : attach cells name before = ((success, some attachment), after)) :
      Obtains id before attachment.container after
  | mapped (number : Int) (pointer : UInt64) (after : Library)
      (opened : before.host.opened? number.toNat = some (.file id))
      (succeeds : mapDescriptor number before = (pointer, after))
      (nonnull : pointer ≠ nullAddress) :
      Obtains id before pointer after

/-- What a call that attaches a segment does if it succeeds. -/
theorem attach_succeeds {cells : Option Attachment} {name : TextArgument}
    {attachment : Attachment} {before after : Library}
    (succeeds : attach cells name before = ((success, some attachment), after)) :
    exists config handle host, configOf name = .ok config ∧
      attachSegment config before.host = (.ok handle, host) ∧
      attachment = attachmentOf handle ∧
      after = (handle.mapping?.map ({ before with host } : Library).register).getD
        { before with host } := by
  cases cells with
  | none =>
      have status : statusOf .invalidParameter = success :=
        congrArg (fun result => result.1.1) succeeds
      exact absurd status (statusOf_ne_success _)
  | some cells =>
      rw [attach, Call.bind_apply, attempting_apply] at succeeds
      cases ran : (do attachSegment (← Session.ofExcept (configOf name)) :
          Session SegmentHandle) before.host with
      | mk outcome host =>
          rw [ran] at succeeds
          cases outcome with
          | error error =>
              have status : statusOf error.kind = success :=
                congrArg (fun result => result.1.1) succeeds
              exact absurd status (statusOf_ne_success _)
          | ok handle =>
              rcases Session.bind_eq_ok_iff.mp ran with ⟨config, _, given, attaches⟩
              rcases Session.ofExcept_eq_ok_iff.mp given with ⟨named, rfl⟩
              have cell : attachmentOf handle = attachment :=
                Option.some.inj (congrArg (fun result => result.1.2) succeeds)
              exact ⟨config, handle, host, named, attaches, cell.symm,
                (congrArg Prod.snd succeeds).symm⟩

/-- What a call that maps a descriptor does if it succeeds. -/
theorem mapDescriptor_succeeds {number : Int} {pointer : UInt64} {before after : Library}
    (succeeds : mapDescriptor number before = (pointer, after))
    (nonnull : pointer ≠ nullAddress) :
    exists mapping host, mapNumbered number before.host = (.ok mapping, host) ∧
      mapping.base = pointer ∧ after = ({ before with host } : Library).register mapping := by
  rw [mapDescriptor, Call.bind_apply, attempting_apply] at succeeds
  cases ran : mapNumbered number before.host with
  | mk outcome host =>
      rw [ran] at succeeds
      cases outcome with
      | error error => exact absurd (congrArg Prod.fst succeeds).symm nonnull
      | ok mapping =>
          exact ⟨mapping, host, rfl, congrArg Prod.fst succeeds,
            (congrArg Prod.snd succeeds).symm⟩

/-- The mapping behind a pointer that was just handed out is the newest of the registry. -/
theorem Obtains.exists_mapping {id : FileId} {before after : Library} {pointer : UInt64}
    (obtains : Obtains id before pointer after) :
    exists mapping, mapping.base = pointer ∧
      after.registry = (pointer, mapping) :: before.registry ∧
      before.host.Maps id mapping after.host := by
  cases obtains with
  | attached cells name config attachment after named found succeeds =>
      rcases attach_succeeds succeeds with ⟨other, handle, host, named', attaches, cell, library⟩
      rw [named] at named'
      cases named'
      rcases attachSegment_eq_ok attaches with ⟨id', mapping, found', maps, shown⟩
      rw [found] at found'
      cases found'
      rw [shown] at library
      have base : attachment.container = mapping.base := by
        rw [cell, attachmentOf, shown]
        rfl
      rw [base, library]
      exact ⟨mapping, rfl, rfl, maps⟩
  | mapped number pointer after opened succeeds nonnull =>
      rcases mapDescriptor_succeeds succeeds nonnull with ⟨mapping, host, maps', base, library⟩
      rcases mapNumbered_eq_ok maps' with ⟨id', opened', maps⟩
      rw [opened] at opened'
      cases opened'
      rw [<- base, library]
      exact ⟨mapping, rfl, rfl, maps⟩

/-- The newest mapping that a pointer can lead to is the one that was handed out under it, now
and after every mapping that is still to be made. -/
structure LeadsTo (library : Library) (pointer : UInt64) (mapping : Mapping) : Prop where
  base_eq : mapping.base = pointer
  placed : exists newer older, library.registry = newer ++ (pointer, mapping) :: older ∧
    forall entry, entry ∈ newer -> pointer < entry.2.base
  pointer_lt : pointer.toNat < library.host.freeAddress

theorem Obtains.leadsTo {id : FileId} {before after : Library} {pointer : UInt64}
    (obtains : Obtains id before pointer after) :
    exists mapping, LeadsTo after pointer mapping ∧ before.host.Maps id mapping after.host := by
  rcases obtains.exists_mapping with ⟨mapping, base, registry, maps⟩
  refine ⟨mapping, ⟨base, ⟨[], before.registry, registry, nofun⟩, ?_⟩, maps⟩
  have low : pointer.toNat <= before.host.freeAddress := by
    rw [<- base, maps.mapping_eq, UInt64.toNat_ofNat']
    exact Nat.mod_le _ _
  exact Nat.lt_of_le_of_lt low maps.freeAddress_lt

/-- A request that does not give the pointer back leaves it leading where it led, as long as
there are addresses left. -/
theorem LeadsTo.effect {GivesBack : UInt64 -> Prop} {before after : Library}
    {pointer : UInt64} {mapping : Mapping} (leads : LeadsTo before pointer mapping)
    (effect : Effect GivesBack before after) (kept : ¬ GivesBack pointer)
    (room : before.host.freeAddress < addressLimit) : LeadsTo after pointer mapping := by
  rcases leads.placed with ⟨newer, older, registry, higher⟩
  refine ⟨leads.base_eq, ?_, Nat.lt_of_lt_of_le leads.pointer_lt effect.freeAddress_le⟩
  rcases effect.registry with same | ⟨container, given, filtered⟩ | ⟨made, base, extended⟩
  · exact ⟨newer, older, same.trans registry, higher⟩
  · have other : pointer ≠ container := by
      rintro rfl
      exact kept given
    refine ⟨newer.filter (·.1 ≠ container), older.filter (·.1 ≠ container), ?_, ?_⟩
    · rw [filtered, registry, List.filter_append, List.filter_cons_of_pos (by simpa using other)]
    · intro entry member
      exact higher entry ((List.mem_filter.mp member).1)
  · refine ⟨(made.base, made) :: newer, older, ?_, ?_⟩
    · rw [extended, registry]
      rfl
    · intro entry member
      rcases List.mem_cons.mp member with newest | member
      · have lower := leads.pointer_lt
        rw [newest, base, UInt64.lt_iff_toNat_lt, UInt64.toNat_ofNat_of_lt' room]
        exact lower
      · exact higher entry member

/-! ## Runs -/

/-- The library after a sequence of requests. -/
def afterAll (library : Library) : List Request -> Library
  | [] => library
  | request :: rest => afterAll (request.after library) rest

/-- No request of the sequence gives the pointer back, and the addresses do not run out. -/
def Undisturbed (pointer : UInt64) (library : Library) : List Request -> Prop
  | [] => True
  | request :: rest =>
      ¬ request.GivesBack pointer ∧ library.host.freeAddress < addressLimit ∧
        Undisturbed pointer (request.after library) rest

theorem files_afterAll (library : Library) (requests : List Request) :
    (afterAll library requests).host.files = library.host.files := by
  induction requests generalizing library with
  | nil => rfl
  | cons request rest ih =>
      rw [afterAll, ih]
      exact (request.effect library).files_eq

theorem LeadsTo.afterAll {library : Library} {pointer : UInt64} {mapping : Mapping}
    (leads : LeadsTo library pointer mapping) {requests : List Request}
    (undisturbed : Undisturbed pointer library requests) :
    LeadsTo (afterAll library requests) pointer mapping := by
  induction requests generalizing library with
  | nil => exact leads
  | cons request rest ih =>
      rcases undisturbed with ⟨kept, room, later⟩
      exact ih (leads.effect (request.effect library) kept room) later

/-! ## What is found behind a pointer -/

theorem spanFrom?_eq_none {memory : List Span} {address : UInt64}
    (above : forall span, span ∈ memory -> address < span.base) :
    spanFrom? memory address = none := by
  rw [spanFrom?, List.findSome?_eq_none_iff]
  intro span member
  apply if_neg
  rintro ⟨below, _⟩
  exact UInt64.not_le.mpr (above span member) below

theorem spanFrom?_append {front back : List Span} {address : UInt64}
    (passed : spanFrom? front address = none) :
    spanFrom? (front ++ back) address = spanFrom? back address := by
  unfold spanFrom? at *
  rw [List.findSome?_append, passed, Option.none_or]

theorem spanFrom?_cons_self {span : Span} (nonempty : 0 < span.size) (rest : List Span) :
    spanFrom? (span :: rest) span.base = some span := by
  have here : span.base <= span.base ∧ (span.base - span.base).toNat < span.size := by
    rw [UInt64.sub_self]
    exact ⟨UInt64.le_refl span.base, nonempty⟩
  rw [spanFrom?, List.findSome?_cons, if_pos here, UInt64.sub_self]
  exact congrArg some (congrArg (Span.mk span.base) Array.extract_size)

/-- A pointer leads to the whole content of the file that was mapped. -/
theorem LeadsTo.spanFrom?_eq {library : Library} {pointer : UInt64} {mapping : Mapping}
    (leads : LeadsTo library pointer mapping) {content : Bytes}
    (shown : (library.host.files.file mapping.file).content = content)
    (whole : mapping.length = content.size) (nonempty : 0 < content.size) :
    spanFrom? library.memory pointer = some ⟨pointer, content⟩ := by
  rcases leads.placed with ⟨newer, older, registry, higher⟩
  have memory : library.host.memory mapping = ⟨pointer, content⟩ := by
    rw [Host.memory, leads.base_eq, shown, whole, Bytes.resize, if_neg (Nat.lt_irrefl _),
      Array.extract_size]
  rw [Library.memory, registry, List.map_append, List.map_cons, memory, spanFrom?_append]
  · let span : Span := ⟨pointer, content⟩
    have inside : 0 < span.size := nonempty
    exact spanFrom?_cons_self inside _
  · apply spanFrom?_eq_none
    intro span member
    rcases List.mem_map.mp member with ⟨entry, present, rfl⟩
    exact higher entry present

/-- The container at the front of a span is found at the address of the span. -/
theorem containerAt?_eq {memory : List Span} {span : Span} {container : Container}
    (found : spanFrom? memory span.base = some span)
    (opened : Container.ofRelocated span = .ok container) :
    containerAt? memory span.base = some container := by
  rcases Container.ofRelocated_eq_ok_iff.mp opened with ⟨viewed, relocatable⟩
  rcases Container.ofSpan_eq_ok_iff.mp viewed with
    ⟨_, header, mode, stored, accepted, recorded, same⟩
  rcases ContainerHeader.validate_eq_ok_iff.mp accepted with ⟨magic, _, least, most, _⟩
  have front : Container.ofRelocated (span.take header.capacity.toNat) = .ok container :=
    Container.ofRelocated_take stored accepted opened
  have acceptable : header.magic = containerMagic ∧
      leastContainerSize <= header.capacity.toNat ∧ header.capacity.toNat <= span.size :=
    ⟨magic, least, most⟩
  unfold containerAt?
  rw [found]
  simp only [Option.bind_eq_bind, Option.bind_some, stored, Except.toOption, acceptable,
    and_self, if_true, front]

/-- The container of the mapping behind a pointer is found there until the pointer is given
back. -/
theorem Obtains.exists_container {id : FileId} {before after : Library} {pointer : UInt64}
    (obtains : Obtains id before pointer after) :
    exists mapping container, mapping.base = pointer ∧ before.host.Maps id mapping after.host ∧
      after.host.mapped mapping = .ok container ∧
      forall requests, Undisturbed pointer after requests ->
        containerAt? (afterAll after requests).memory pointer = some container := by
  rcases obtains.leadsTo with ⟨mapping, leads, maps⟩
  rcases maps.opens with ⟨container, opened⟩
  refine ⟨mapping, container, leads.base_eq, maps, opened, ?_⟩
  intro requests undisturbed
  have content : (after.host.files.file mapping.file).content =
      (before.host.files.file id).content := by
    rw [maps.files_eq, maps.mapping_eq]
  have whole : mapping.length = (before.host.files.file id).content.size := by
    rw [maps.mapping_eq]
  have shown : after.host.memory mapping = ⟨pointer, (before.host.files.file id).content⟩ := by
    rw [maps.memory_eq, <- leads.base_eq, maps.mapping_eq]
  rw [shown] at opened
  have nonempty : 0 < (before.host.files.file id).content.size :=
    Nat.lt_of_lt_of_le (by decide) (aligned_of_ofRelocated opened).2
  have later := leads.afterAll undisturbed
  have reached := later.spanFrom?_eq (by rw [files_afterAll]; exact content) whole nonempty
  exact containerAt?_eq reached opened

end Foreign
end MappedTables
