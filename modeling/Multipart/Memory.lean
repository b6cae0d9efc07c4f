import Multipart.Accounting

/-! What a save holds in memory. `memory_threshold` is where a field switches from memory to
disk: `with_path` never returns more than that many bytes of a field in memory, however long the
field. A whole-request save keeps each file field's value within the default threshold (its saves
are made from `new`), and keeps it so across calls: `Entries` within the bound stay within it
through `with_entries` and `keep_partial`. -/

namespace Multipart

/-- The bytes a saved value holds in memory: a text's or a buffer's; a file holds none. -/
def SavedData.inMemory : SavedData → Nat
  | .text value => value.bytes.length
  | .bytes content => content.length
  | .file .. => 0

/-- Every file value `entries` keeps holds at most `bound` bytes in memory. -/
def Entries.MemoryWithin (bound : Nat) (entries : Entries) : Prop :=
  ∀ entry ∈ entries.files, ∀ data ∈ entry.2, data.inMemory ≤ bound

theorem Entries.memoryWithin_push {bound : Nat} {entries : Entries} (within : entries.MemoryWithin bound)
    (field : String) {saved : SavedData} (small : saved.inMemory ≤ bound) :
    (entries.mutFilesFor field (· ++ [saved])).MemoryWithin bound := by
  obtain ⟨fields, files, saveDir⟩ := entries
  simp only [MemoryWithin, mutFilesFor] at within ⊢
  induction files with
  | nil => simpa [updateFiles] using small
  | cons entry rest ih =>
    obtain ⟨name, saved'⟩ := entry
    simp only [List.mem_cons, forall_eq_or_imp] at within
    by_cases same : name = field
    · simp only [updateFiles, same, if_true, List.mem_cons, forall_eq_or_imp, List.mem_append, List.not_mem_nil,
        or_false]
      exact ⟨fun data member => member.elim (within.1 data) fun pushed => pushed ▸ small, within.2⟩
    · simp only [updateFiles, same, if_false, List.mem_cons, forall_eq_or_imp]
      exact ⟨within.1, ih within.2⟩

namespace SaveBuilder

variable (builder : SaveBuilder Body)

/-- A spill returns the file it wrote, nothing in memory. -/
theorem spill_inMemory (bytes : List UInt8) (path : Path) (fs : FileSystem) :
    Carries (fun data => data.inMemory = 0) (builder.spill bytes path fs).1 := by
  unfold spill
  rcases createDirAll fs path with ⟨_ | _, calls⟩ <;> dsimp only
  · trivial
  rcases fs.openFile builder.openOpts path with _ | _ <;> dsimp only
  · trivial
  rcases tryWriteAll bytes ⟨fs.writes, []⟩ with ⟨_ | _ | _, file⟩ <;> dsimp only
  · rcases builder.writeTo file with ⟨_ | _ | _, body, file'⟩
    · exact rfl
    · exact rfl
    · trivial
  · exact rfl
  · trivial

variable {builder} in
/-- Every way `with_path` can end holds at most `memory_threshold` bytes of the field in memory: a
buffer it keeps or decodes is within the threshold, and a spill holds nothing in memory. -/
theorem Resolves.memoryBound {path : Path} {fs : FileSystem} {run : FieldSaveResult × Body × Dest}
    (resolves : builder.Resolves path fs run) :
    Carries (fun data => data.inMemory ≤ builder.memoryThreshold) run.1 := by
  cases resolves with
  | readFailed | rejected => trivial
  | kept _ short | cut _ short => exact short
  | decoded _ short decodes => simpa only [Carries, SavedData.inMemory, fromUtf8_bytes decodes] using short
  | @spilled bytes body _ _ =>
    exact (({ builder with savable := body } : SaveBuilder Body).spill_inMemory bytes path fs).imp
      fun _ none => none ▸ Nat.zero_le _

/-- `with_path` holds at most `memory_threshold` bytes of the field in memory: every text or
buffer it returns, `Full` or `Partial`, is at most that long, whatever the field's length and
`size_limit`. -/
theorem withPath_memory_bounded (path : Path) (fs : FileSystem) :
    Carries (fun data => data.inMemory ≤ builder.memoryThreshold) (builder.withPath path fs).1 :=
  (builder.withPath_resolves path fs).memoryBound

namespace Request

variable (builder : SaveBuilder FieldSource)

theorem saveFile_memoryBound (dir : SaveDir) (body : Body) (fs : FileSystem) (name : RandomName) :
    Carries (fun data => data.inMemory ≤ defaultMemoryThreshold) (saveFile builder dir body fs name).1 :=
  (((SaveBuilder.new body).setSizeLimit builder.sizeLimit).withPath_resolves _ fs).memoryBound

theorem record_memoryWithin (dir : SaveDir) {entries : Entries}
    (within : entries.MemoryWithin defaultMemoryThreshold) (field : MultipartField) :
    (record builder dir entries field).MemoryWithin defaultMemoryThreshold := by
  unfold record
  rcases field with ⟨fieldName, ⟨body, fs, name⟩ | text⟩ <;> dsimp only
  · have bounded := saveFile_memoryBound builder dir body fs name
    split
    · rename_i saved full
      rw [full] at bounded
      exact Entries.memoryWithin_push within fieldName bounded
    · exact within
  · exact within

theorem recordAll_memoryWithin (dir : SaveDir) {entries : Entries}
    (within : entries.MemoryWithin defaultMemoryThreshold) (fields : List MultipartField) :
    (recordAll builder dir entries fields).MemoryWithin defaultMemoryThreshold := by
  induction fields generalizing entries with
  | nil => exact within
  | cons field fields ih => exact ih (record_memoryWithin builder dir within field)

/-- A whole-request save keeps every file field's value within the default memory threshold,
whatever `memory_threshold` its builder has: from entries within that bound, the entries it
returns, and those `keep_partial` makes of a `Partial` outcome, are within it, so the bound holds
across a save and its resumptions. -/
theorem withEntries_memory_bounded (entries : Entries) (within : entries.MemoryWithin defaultMemoryThreshold) :
    (∀ recorded, (withEntries builder entries).1.intoEntries = some recorded →
      recorded.MemoryWithin defaultMemoryThreshold) ∧
      ∀ partialEntries reason, (withEntries builder entries).1 = .partly partialEntries reason →
        partialEntries.keepPartial.MemoryWithin defaultMemoryThreshold := by
  obtain ⟨pre, rest, -, -, stop, stops, run⟩ := go_stops builder 0 builder.savable.fields entries
  have recorded := recordAll_memoryWithin builder entries.saveDir within pre
  rw [withEntries, run]
  cases stops with
  | ended => exact ⟨fun _ same => by cases same; exact recorded, fun _ _ same => by cases same⟩
  | sourceFailed | countLimit | saveFailed =>
    exact ⟨fun _ same => by cases same; exact recorded, fun _ _ same => by cases same; exact recorded⟩
  | @savedPartly _ _ body _ fs name _ _ _ _ _ outcome =>
    have bounded := saveFile_memoryBound builder (recordAll builder entries.saveDir entries pre).saveDir body fs name
    rw [outcome] at bounded
    exact ⟨fun _ same => by cases same; exact recorded,
      fun _ _ same => by cases same; exact Entries.memoryWithin_push recorded _ bounded⟩

/-- A request of one file field "f" holding `FF FF`, saved into fresh entries. -/
theorem withEntries_memory_bounded_ff :
    (Entries.new (.perm ⟨true, ["uploads"]⟩)).MemoryWithin defaultMemoryThreshold ∧
      (∀ recorded, (withEntries (SaveBuilder.new (FieldSource.ofFiles [("f", .ff)]))
          (.new (.perm ⟨true, ["uploads"]⟩))).1.intoEntries = some recorded →
        recorded.MemoryWithin defaultMemoryThreshold) ∧
      ∀ partialEntries reason, (withEntries (SaveBuilder.new (FieldSource.ofFiles [("f", .ff)]))
          (.new (.perm ⟨true, ["uploads"]⟩))).1 = .partly partialEntries reason →
        partialEntries.keepPartial.MemoryWithin defaultMemoryThreshold :=
  have fresh : (Entries.new (.perm ⟨true, ["uploads"]⟩)).MemoryWithin defaultMemoryThreshold :=
    fun _ absent => nomatch absent
  ⟨fresh, withEntries_memory_bounded _ _ fresh⟩

end Request

end SaveBuilder

end Multipart
