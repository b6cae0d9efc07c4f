import Multipart.Field

/-! What saving one field guarantees: `save_mem` buffers the first bytes of the field, and
every outcome of `with_path` keeps a prefix of the field at its destination; then the runs
with no failure, on which the code's departures from its documentation show. -/

namespace Multipart.SaveBuilder

variable (builder : SaveBuilder Body)

/-- `write_to` keeps the copy contract, within `size_limit` when one is set, and reports
`SizeLimit` only after exactly `size_limit` bytes with more left. -/
theorem writeTo_spec (dest : Writer) :
    Copied builder.savable dest (builder.writeTo dest) ∧
      (∀ limit, builder.sizeLimit = some limit → (builder.writeTo dest).1.progress ≤ limit) ∧
      (∀ n, (builder.writeTo dest).1 = .full n → (builder.writeTo dest).2.1.rest = []) ∧
      (∀ n, (builder.writeTo dest).1 = .partly n .sizeLimit →
        builder.sizeLimit = some n ∧ (builder.writeTo dest).2.1.rest ≠ []) ∧
      (∀ n reason, (builder.writeTo dest).1 = .partly n reason →
        reason = .sizeLimit ∨ ∃ error, reason = .ioError error) ∧
      (builder.writeTo dest).2.1.failures ≤ builder.savable.failures := by
  unfold writeTo
  rcases sized : builder.sizeLimit with _ | limit <;> dsimp only
  · obtain ⟨copied, full, partly⟩ := tryCopyBuf_spec builder.savable dest
    refine ⟨copied, by simp, full, fun n same => ?_, fun n reason same => .inr (partly n reason same),
      tryCopyBuf_failures builder.savable dest⟩
    obtain ⟨error, wrong⟩ := partly n _ same
    cases wrong
  · obtain ⟨copied, bounded, full, sizeLimit, partly⟩ := tryCopyLimited_spec builder.savable dest limit
    refine ⟨copied, fun _ same => by cases same; exact bounded, full, fun n same => ?_, partly,
      tryCopyLimited_failures builder.savable dest limit⟩
    obtain ⟨rfl, more⟩ := sizeLimit n same
    exact ⟨rfl, more⟩

/-- A buffer taken from the front of a field: the field lost exactly those bytes and no
failures were added. -/
def Taken (body : Body) (bytes : List UInt8) (body' : Body) : Prop :=
  bytes <+: body.rest ∧ body'.rest = body.rest.drop bytes.length ∧ body'.failures ≤ body.failures

/-- The memory bound of `save_mem`: `memory_threshold`, and `size_limit` when that is lower. -/
def Within (bytes : List UInt8) : Prop :=
  bytes.length ≤ builder.memoryThreshold ∧
    ∀ limit, builder.sizeLimit = some limit → limit < builder.memoryThreshold → bytes.length ≤ limit

/-- What `save_mem` owes `with_path`: the buffer is taken from the front of the field, within
the memory bound; `true` marks a field that ended in it, `false` one with exactly
`memory_threshold` bytes buffered and more left. -/
def MemSaved : SaveResult (List UInt8 × Bool) (List UInt8) × Body → Prop
  | (.full (bytes, complete), body) =>
    Taken builder.savable bytes body ∧ builder.Within bytes ∧ (complete = true → body.rest = []) ∧
      (complete = false → builder.sizeLimit.any (· < builder.memoryThreshold) = false ∧
        bytes.length = builder.memoryThreshold ∧ body.rest ≠ [])
  | (.partly bytes reason, body) =>
    Taken builder.savable bytes body ∧ builder.Within bytes ∧
      (reason = .sizeLimit → ∃ limit, builder.sizeLimit = some limit ∧ bytes.length = limit ∧
        body.rest ≠ []) ∧ (reason = .sizeLimit ∨ ∃ error, reason = .ioError error)
  | (.error _, body) => body.rest = builder.savable.rest ∧ body.failures ≤ builder.savable.failures

theorem taken_of_copied {body body' : Body} {result : SaveResult Nat Nat} {dest : Writer}
    (copied : Copied body Writer.vec (result, body', dest)) (fewer : body'.failures ≤ body.failures) :
    Taken body dest.written body' ∧ dest.written.length = result.progress := by
  obtain ⟨bounded, written, rest⟩ := copied
  simp only [Writer.vec, List.nil_append, Body.bufRead_rest] at written rest bounded
  have length : (body.rest.take result.progress).length = result.progress := by
    rw [List.length_take, Nat.min_eq_left bounded]
  rw [written]
  exact ⟨⟨List.take_prefix _ _, by rw [length]; exact rest, fewer⟩, length⟩

theorem within_of_le {bytes : List UInt8} {limit : Nat} (sized : builder.sizeLimit = some limit)
    (short : bytes.length ≤ limit) (below : limit < builder.memoryThreshold) : builder.Within bytes :=
  ⟨by omega, fun _ same _ => by cases sized.symm.trans same; exact short⟩

theorem within_of_not_small {bytes : List UInt8}
    (notSmall : builder.sizeLimit.any (· < builder.memoryThreshold) = false)
    (short : bytes.length ≤ builder.memoryThreshold) : builder.Within bytes :=
  ⟨short, fun _ same below => by simp [same, below] at notSmall⟩

theorem saveMem_memSaved : builder.MemSaved builder.saveMem := by
  unfold saveMem
  split
  · obtain ⟨limit, sized, below⟩ :
        ∃ limit, builder.sizeLimit = some limit ∧ limit < builder.memoryThreshold := by
      rcases sized : builder.sizeLimit with _ | limit <;> simp_all
    obtain ⟨copied, bounded, full, sizeLimit, partly, fewer⟩ := builder.writeTo_spec Writer.vec
    have short := bounded limit sized
    rcases run : builder.writeTo Writer.vec with ⟨_ | ⟨_, reason⟩ | _, body, bytes⟩ <;>
      simp only [run] at copied short full sizeLimit partly fewer <;> dsimp only [MemSaved]
    all_goals obtain ⟨taken, length⟩ := taken_of_copied copied fewer
    all_goals simp only [SaveResult.progress] at length short
    · exact ⟨taken, builder.within_of_le sized (by omega) below, fun _ => full _ rfl, by simp⟩
    · refine ⟨taken, builder.within_of_le sized (by omega) below, fun same => ?_, partly _ _ rfl⟩
      obtain ⟨sized', more⟩ := sizeLimit _ (by rw [same])
      exact ⟨_, sized', length, more⟩
    · exact ⟨by simpa [length] using taken.2.1, fewer⟩
  · rename_i notSmall
    simp only [Bool.not_eq_true] at notSmall
    obtain ⟨copied, bounded, full, sizeLimit, partly⟩ :=
      tryCopyLimited_spec builder.savable Writer.vec builder.memoryThreshold
    have fewer := tryCopyLimited_failures builder.savable Writer.vec builder.memoryThreshold
    rcases run : tryCopyLimited builder.savable Writer.vec builder.memoryThreshold with
      ⟨_ | ⟨_, _ | _ | _⟩ | _, body, bytes⟩ <;>
      simp only [run] at copied bounded full sizeLimit partly fewer <;> dsimp only [MemSaved]
    all_goals obtain ⟨taken, length⟩ := taken_of_copied copied fewer
    all_goals simp only [SaveResult.progress] at length bounded
    · exact ⟨taken, builder.within_of_not_small notSmall (by omega), fun _ => full _ rfl, by simp⟩
    · have := partly _ _ rfl; simp at this
    · obtain ⟨rfl, more⟩ := sizeLimit _ rfl
      exact ⟨taken, builder.within_of_not_small notSmall (by omega), by simp,
        fun _ => ⟨notSmall, length, more⟩⟩
    · exact ⟨taken, builder.within_of_not_small notSmall (by omega), by simp, partly _ _ rfl⟩
    · exact ⟨by simpa [length] using taken.2.1, fewer⟩

/-- The bytes `save_mem` buffered, whatever its outcome. -/
def memBuffer : SaveResult (List UInt8 × Bool) (List UInt8) → List UInt8
  | .full (bytes, _) | .partly bytes _ => bytes
  | .error _ => []

theorem saveMem_within : builder.Within (memBuffer builder.saveMem.1) := by
  have memSaved := builder.saveMem_memSaved
  generalize builder.saveMem = saved at memSaved ⊢
  rcases saved with ⟨⟨bytes, _⟩ | ⟨bytes, _⟩ | _, _⟩
  · exact memSaved.2.1
  · exact memSaved.2.1
  · exact ⟨Nat.zero_le _, fun _ _ _ => Nat.zero_le _⟩

/-- The copy loops conserve bytes: the writer receives exactly what leaves the reader, a prefix
of its content, as many bytes as the result reports. `try_copy_limited` stays within its limit
and, with no failure to come, reports `Full` or `SizeLimit` by length alone; so the buffer of
`save_mem` stays within its memory bound. -/
theorem copy_conserves {σ : Type} [BufRead σ] (src : σ) (dest : Writer) (limit : Nat) :
    (Copied src dest (tryCopyBuf src dest) ∧
      (∀ n, (tryCopyBuf src dest).1 = .full n →
        n = (BufRead.rest src).length ∧ BufRead.rest (tryCopyBuf src dest).2.1 = []) ∧
      (∀ error, (tryCopyBuf src dest).1 = .error error →
        (tryCopyBuf src dest).2.2.written = dest.written ∧
          BufRead.rest (tryCopyBuf src dest).2.1 = BufRead.rest src) ∧
      (∀ n reason, (tryCopyBuf src dest).1 = .partly n reason → ∃ error, reason = .ioError error)) ∧
    (Copied src dest (tryCopyLimited src dest limit) ∧
      (tryCopyLimited src dest limit).1.progress ≤ limit ∧
      (∀ n, (tryCopyLimited src dest limit).1 = .full n →
        n = (BufRead.rest src).length ∧ BufRead.rest (tryCopyLimited src dest limit).2.1 = []) ∧
      (∀ n, (tryCopyLimited src dest limit).1 = .partly n .sizeLimit → n = limit ∧
        BufRead.rest (tryCopyLimited src dest limit).2.1 = (BufRead.rest src).drop limit ∧
        (BufRead.rest src).drop limit ≠ []) ∧
      (BufRead.failures src = 0 → dest.Reliable → (tryCopyLimited src dest limit).1 =
        if (BufRead.rest src).length ≤ limit then .full (BufRead.rest src).length
        else .partly limit .sizeLimit)) ∧
    ∀ builder : SaveBuilder Body, builder.Within (memBuffer builder.saveMem.1) := by
  have whole : ∀ {run : SaveResult Nat Nat × σ × Writer} {n}, Copied src dest run → run.1 = .full n →
      BufRead.rest run.2.1 = [] → n = (BufRead.rest src).length := fun copied full ended => by
    have := copied.2.2; rw [ended, full, eq_comm, List.drop_eq_nil_iff] at this
    have := copied.1; rw [full] at this; exact le_antisymm this ‹_›
  obtain ⟨copied, full, partly⟩ := tryCopyBuf_spec src dest
  obtain ⟨limited, bounded, limitedFull, sizeLimit, -⟩ := tryCopyLimited_spec src dest limit
  refine ⟨⟨copied, fun n same => ⟨whole copied same (full n same), full n same⟩, fun error same => ?_,
    partly⟩, ⟨limited, bounded, fun n same => ⟨whole limited same (limitedFull n same), limitedFull n same⟩,
    fun n same => ?_, tryCopyLimited_reliable src limit⟩, saveMem_within⟩
  · have written := copied.2.1; have rest := copied.2.2
    rw [same] at written rest
    exact ⟨by simpa [SaveResult.progress] using written, by simpa [SaveResult.progress] using rest⟩
  · obtain ⟨rfl, more⟩ := sizeLimit n same
    have rest := limited.2.2; rw [same] at rest
    exact ⟨rfl, rest, rest ▸ more⟩

/-- Where saved data lives holds a prefix of the field's content: text or bytes in memory, or
the bytes the save wrote to the file it opened, whose recorded size is exactly how many it
wrote. -/
def HoldsPrefix (content : List UInt8) (dest : Dest) : SavedData → Prop
  | .text text => text.bytes <+: content
  | .bytes bytes => bytes <+: content
  | .file path size =>
    ∃ file, dest.file = some (path, file) ∧ file.written.length = size ∧ file.written <+: content

/-- Every value a field save returns, full or partial, satisfies `holds`. -/
def Carries (holds : SavedData → Prop) : FieldSaveResult → Prop
  | .full data | .partly data _ => holds data
  | .error _ => True

/-- Spilling writes the buffered bytes, then the rest of the field, to the file it records. -/
theorem spill_holdsPrefix (bytes : List UInt8) (path : Path) (fs : FileSystem) :
    Carries (HoldsPrefix (bytes ++ builder.savable.rest) (builder.spill bytes path fs).2.2)
      (builder.spill bytes path fs).1 := by
  unfold spill
  rcases createDirAll fs path with ⟨_ | _, calls⟩ <;> dsimp only
  · trivial
  rcases fs.openFile builder.openOpts path with _ | _ <;> dsimp only
  · trivial
  rcases wrote : tryWriteAll bytes ⟨fs.writes, []⟩ with ⟨_ | _ | _, file⟩ <;>
    obtain ⟨bounded, written⟩ := tryWriteAll_written wrote <;>
    simp only [SaveResult.progress, List.nil_append] at bounded written <;> dsimp only
  · rename_i size
    have all := tryWriteAll_full wrote
    subst all
    obtain ⟨⟨copied, cwritten, -⟩, -⟩ := builder.writeTo_spec file
    rcases run : builder.writeTo file with ⟨_ | _ | _, body, file'⟩ <;>
      simp only [run, Body.bufRead_rest] at copied cwritten <;> dsimp only [Carries]
    all_goals try trivial
    all_goals
      refine ⟨file', rfl, ?_, ?_⟩
      · simp [cwritten, written, SaveResult.progress, SavedData.addSize] at copied ⊢; omega
      · rw [cwritten, written]
        simpa [SaveResult.progress] using List.prefix_append_right_inj bytes |>.mpr (List.take_prefix _ _)
  · refine ⟨file, rfl, by simp [written, SaveResult.progress] at bounded ⊢; omega, ?_⟩
    rw [written]
    exact (List.take_prefix _ _).trans (List.prefix_append _ _)
  · trivial

/-- Every value `with_path` returns, `Full` or `Partial`, holds a prefix of the field: in
memory, or in the file it names, to which the save wrote exactly the size it records. -/
theorem withPath_holdsPrefix (path : Path) (fs : FileSystem) :
    Carries (HoldsPrefix builder.savable.rest (builder.withPath path fs).2.2)
      (builder.withPath path fs).1 := by
  have memSaved := builder.saveMem_memSaved
  unfold withPath
  rcases saved : builder.saveMem with ⟨⟨bytes, complete⟩ | ⟨bytes, reason⟩ | error, body⟩ <;>
    rw [saved] at memSaved
  · obtain ⟨⟨prefix_, rest, -⟩, -⟩ := memSaved
    have whole : bytes ++ body.rest = builder.savable.rest := by
      rw [rest]; exact List.prefix_iff_eq_append.mp prefix_
    have spilled := ({ builder with savable := body } : SaveBuilder Body).spill_holdsPrefix bytes path fs
    rw [show ({ builder with savable := body } : SaveBuilder Body).savable = body from rfl, whole] at spilled
    cases complete <;> dsimp only
    · split
      · rcases decoded : fromUtf8 bytes with _ | text <;> dsimp only
        · exact spilled
        · exact show text.bytes <+: _ from fromUtf8_bytes decoded ▸ prefix_
      · rcases decoded : fromUtf8 bytes with _ | text <;> dsimp only
        · trivial
        · exact show text.bytes <+: _ from fromUtf8_bytes decoded ▸ prefix_
      · exact spilled
    · exact prefix_
  · exact memSaved.1.1
  · trivial

/-- With `size_limit` below `memory_threshold`, `with_path` never touches the filesystem: whatever
the body and its failures, it keeps the field in memory, as `Bytes` of at most `size_limit`
bytes. -/
theorem withPath_below_threshold (path : Path) (fs : FileSystem) {limit : Nat}
    (sized : builder.sizeLimit = some limit) (below : limit < builder.memoryThreshold) :
    (builder.withPath path fs).2.2 = ⟨[], none⟩ ∧
      Carries (fun data => ∃ bytes, data = .bytes bytes ∧ bytes.length ≤ limit)
        (builder.withPath path fs).1 := by
  have memSaved := builder.saveMem_memSaved
  have small : builder.sizeLimit.any (· < builder.memoryThreshold) = true := by simp [sized, below]
  unfold withPath
  rcases saved : builder.saveMem with ⟨⟨bytes, _ | _⟩ | ⟨bytes, reason⟩ | error, body⟩ <;>
    rw [saved] at memSaved
  · rw [(memSaved.2.2.2 rfl).1] at small
    cases small
  · exact ⟨rfl, bytes, rfl, memSaved.2.1.2 limit sized below⟩
  · exact ⟨rfl, bytes, rfl, memSaved.2.1.2 limit sized below⟩
  · exact ⟨rfl, trivial⟩

/-- The field "ab" under `size_limit` 1 and the default threshold. -/
theorem withPath_below_threshold_ab :
    ((SaveBuilder.new (⟨[.chunk 0x61 [0x62]]⟩ : Body)).setSizeLimit (some 1)).sizeLimit = some 1 ∧
      1 < ((SaveBuilder.new (⟨[.chunk 0x61 [0x62]]⟩ : Body)).setSizeLimit (some 1)).memoryThreshold ∧
      (((SaveBuilder.new (⟨[.chunk 0x61 [0x62]]⟩ : Body)).setSizeLimit (some 1)).withPath
        ⟨true, ["tmp", "upload"]⟩ .healthy).2.2 = ⟨[], none⟩ ∧
      Carries (fun data => ∃ bytes, data = .bytes bytes ∧ bytes.length ≤ 1)
        (((SaveBuilder.new (⟨[.chunk 0x61 [0x62]]⟩ : Body)).setSizeLimit (some 1)).withPath
          ⟨true, ["tmp", "upload"]⟩ .healthy).1 :=
  ⟨rfl, by decide, withPath_below_threshold _ _ _ rfl (by decide)⟩

/-! ## Runs with no failure

A quiet body has no failure to come (`failures = 0`), and a reliable writer takes at least one
byte on every call. On such runs every outcome is fixed by the lengths alone. -/

theorem writeTo_quiet (dest : Writer) (quiet : builder.savable.failures = 0) (reliable : dest.Reliable) :
    (builder.writeTo dest).1 = match builder.sizeLimit with
      | some limit => if builder.savable.rest.length ≤ limit then .full builder.savable.rest.length
          else .partly limit .sizeLimit
      | none => .full builder.savable.rest.length := by
  unfold writeTo
  cases builder.sizeLimit with
  | none => exact (tryCopyBuf_reliable builder.savable quiet reliable).1
  | some limit => exact tryCopyLimited_reliable builder.savable limit quiet reliable

/-- Below a lower `size_limit`, `save_mem` buffers the whole field when it fits the limit and
stops at the limit otherwise. -/
theorem saveMem_small {limit : Nat} (quiet : builder.savable.failures = 0)
    (sized : builder.sizeLimit = some limit) (below : limit < builder.memoryThreshold) :
    builder.saveMem.1 = if builder.savable.rest.length ≤ limit then .full (builder.savable.rest, true)
      else .partly (builder.savable.rest.take limit) .sizeLimit := by
  have copied := (builder.writeTo_spec Writer.vec).1.2.1
  have outcome := builder.writeTo_quiet Writer.vec quiet Writer.reliable_vec
  rw [sized] at outcome
  unfold saveMem
  rw [if_pos (by simp [sized, below])]
  rcases run : builder.writeTo Writer.vec with ⟨result, body, bytes⟩
  rw [run] at copied outcome
  simp only [Writer.vec, List.nil_append, Body.bufRead_rest] at copied outcome
  subst outcome
  split_ifs with fits <;> simp [copied, SaveResult.progress, fits]

/-- Otherwise `save_mem` buffers the whole field when it fits `memory_threshold`, and exactly
`memory_threshold` bytes of it, marked unfinished, when it does not. -/
theorem saveMem_large (quiet : builder.savable.failures = 0)
    (notSmall : builder.sizeLimit.any (· < builder.memoryThreshold) = false) :
    builder.saveMem.1 = if builder.savable.rest.length ≤ builder.memoryThreshold
      then .full (builder.savable.rest, true)
      else .full (builder.savable.rest.take builder.memoryThreshold, false) := by
  have copied := (tryCopyLimited_spec builder.savable Writer.vec builder.memoryThreshold).1.2.1
  have outcome := tryCopyLimited_reliable builder.savable builder.memoryThreshold quiet Writer.reliable_vec
  unfold saveMem
  rw [if_neg (by simp [notSmall])]
  rcases run : tryCopyLimited builder.savable Writer.vec builder.memoryThreshold with ⟨result, body, bytes⟩
  rw [run] at copied outcome
  simp only [Writer.vec, List.nil_append, Body.bufRead_rest] at copied outcome
  subst outcome
  split_ifs with fits <;> simp [copied, SaveResult.progress, fits]

/-- A field longer than `memory_threshold` leaves `save_mem` with its first `memory_threshold`
bytes buffered and the rest unread. -/
theorem saveMem_beyond (quiet : builder.savable.failures = 0)
    (notSmall : builder.sizeLimit.any (· < builder.memoryThreshold) = false)
    (longer : builder.memoryThreshold < builder.savable.rest.length) :
    builder.saveMem.1 = .full (builder.savable.rest.take builder.memoryThreshold, false) ∧
      builder.saveMem.2.rest = builder.savable.rest.drop builder.memoryThreshold ∧
      builder.saveMem.2.failures = 0 := by
  have saved := builder.saveMem_large quiet notSmall
  rw [if_neg (by omega)] at saved
  have memSaved := builder.saveMem_memSaved
  rcases result : builder.saveMem with ⟨first, body⟩
  rw [result] at saved memSaved
  dsimp only at saved
  subst saved
  obtain ⟨⟨-, rest, fewer⟩, -⟩ := memSaved
  exact ⟨rfl, by rw [rest, List.length_take, Nat.min_eq_left longer.le], Nat.le_zero.mp (quiet ▸ fewer)⟩

/-- A field that fits in memory, and within `size_limit`, is saved as `Bytes` of all of it
whatever the text policy, and the filesystem is not touched. -/
theorem withPath_fits (path : Path) (fs : FileSystem) (quiet : builder.savable.failures = 0)
    (fits : builder.savable.rest.length ≤ builder.memoryThreshold)
    (within : ∀ limit, builder.sizeLimit = some limit → builder.savable.rest.length ≤ limit) :
    builder.withPath path fs = (.full (.bytes builder.savable.rest), builder.saveMem.2, ⟨[], none⟩) := by
  have saved : builder.saveMem.1 = .full (builder.savable.rest, true) := by
    rcases sized : builder.sizeLimit with _ | limit
    · rw [builder.saveMem_large quiet (by simp [sized]), if_pos fits]
    · by_cases below : limit < builder.memoryThreshold
      · rw [builder.saveMem_small quiet sized below, if_pos (within limit sized)]
      · rw [builder.saveMem_large quiet (by simp [sized, below]), if_pos fits]
  unfold withPath
  rcases result : builder.saveMem with ⟨first, body⟩
  rw [result] at saved
  dsimp only at saved
  subst saved
  rfl

/-- The field "a", well-formed UTF-8 that fits in memory, is saved under the default `Try` as
`Bytes`, not as `Text`. -/
theorem withPath_text_saved_as_bytes :
    validUtf8 [0x61] = true ∧
      ((SaveBuilder.new (⟨[.chunk 0x61 []]⟩ : Body)).withPath ⟨true, ["tmp", "upload"]⟩ .healthy).1 =
        .full (.bytes [0x61]) :=
  ⟨by decide, by rw [withPath_fits (.new ⟨[.chunk 0x61 []]⟩) _ _ rfl (by decide) (fun _ absent => by cases absent)]; rfl⟩

/-- Past the limit, an `Interrupted` peek is not retried. -/
theorem tryCopyLimited_interrupted_peek :
    tryCopyLimited (⟨[.chunk 0x61 [], .fail ⟨.interrupted⟩]⟩ : Body) Writer.vec 1 =
      (.partly 1 (.ioError ⟨.interrupted⟩), ⟨[]⟩, ⟨[], [0x61]⟩) := by
  have filled : BufRead.fillBuf (Take.mk (⟨[.chunk 0x61 [], .fail ⟨.interrupted⟩]⟩ : Body) 1) =
      (.ok [0x61], Take.mk ⟨[.chunk 0x61 [], .fail ⟨.interrupted⟩]⟩ 1) := rfl
  have consumed : BufRead.consume (0 + ([0x61] : List UInt8).length)
      (Take.mk (⟨[.chunk 0x61 [], .fail ⟨.interrupted⟩]⟩ : Body) 1) = Take.mk ⟨[.fail ⟨.interrupted⟩]⟩ 0 := rfl
  unfold tryCopyLimited tryCopyBuf
  rw [tryCopyBuf.go_write_full filled (List.cons_ne_nil _ _) (@tryWriteAll.go_unscripted 0 [0x61] Writer.vec rfl),
    consumed, tryCopyBuf.go_fill_end (rfl : BufRead.fillBuf (Take.mk (⟨[.fail ⟨.interrupted⟩]⟩ : Body) 0) = _)]
  rfl

/-- A one-byte field followed by an `Interrupted` refill, under `memory_threshold` 1, is
reported `Partial` with that interrupt as its reason, where the same field without the
interrupt is saved `Full`. -/
theorem withPath_interrupt_surfaces :
    (((SaveBuilder.new (⟨[.chunk 0x61 [], .fail ⟨.interrupted⟩]⟩ : Body)).setMemoryThreshold 1).withPath
        ⟨true, ["tmp", "upload"]⟩ .healthy).1 = .partly (.bytes [0x61]) (.ioError ⟨.interrupted⟩) ∧
      (((SaveBuilder.new (⟨[.chunk 0x61 []]⟩ : Body)).setMemoryThreshold 1).withPath
        ⟨true, ["tmp", "upload"]⟩ .healthy).1 = .full (.bytes [0x61]) := by
  refine ⟨?_, by rw [withPath_fits ((SaveBuilder.new (⟨[.chunk 0x61 []]⟩ : Body)).setMemoryThreshold 1) _ _ rfl
    (by decide) (fun _ absent => by cases absent)]; rfl⟩
  unfold withPath saveMem
  dsimp only [setMemoryThreshold, SaveBuilder.new]
  rw [tryCopyLimited_interrupted_peek]
  rfl

/-- A field longer than `memory_threshold` whose first `memory_threshold` bytes are well-formed
UTF-8 is saved under `Try` or `Force` as `Text` of those bytes alone, reported `Full`, with the
rest of the field left unread. -/
theorem withPath_prefixText (path : Path) (fs : FileSystem) {text : RustString}
    (quiet : builder.savable.failures = 0)
    (notSmall : builder.sizeLimit.any (· < builder.memoryThreshold) = false)
    (longer : builder.memoryThreshold < builder.savable.rest.length)
    (decoding : builder.textPolicy ≠ .ignore)
    (decoded : fromUtf8 (builder.savable.rest.take builder.memoryThreshold) = some text) :
    builder.withPath path fs = (.full (.text text), builder.saveMem.2, ⟨[], none⟩) ∧
      builder.saveMem.2.rest = builder.savable.rest.drop builder.memoryThreshold := by
  obtain ⟨saved, rest, -⟩ := builder.saveMem_beyond quiet notSmall longer
  refine ⟨?_, rest⟩
  unfold withPath
  rcases result : builder.saveMem with ⟨first, body⟩
  rw [result] at saved
  dsimp only at saved
  subst saved
  dsimp only
  rcases policy : builder.textPolicy with _ | _ | _
  · rw [decoded]
  · rw [decoded]
  · exact absurd policy decoding

/-- The field "ab" under `memory_threshold` 1 and the default `Try` is reported `Full` as the
text "a", with "b" never read. -/
theorem withPath_truncated_full :
    (((SaveBuilder.new (⟨[.chunk 0x61 [0x62]]⟩ : Body)).setMemoryThreshold 1).withPath
        ⟨true, ["tmp", "upload"]⟩ .healthy).1 = .full (.text ⟨[0x61], rfl⟩) ∧
      (((SaveBuilder.new (⟨[.chunk 0x61 [0x62]]⟩ : Body)).setMemoryThreshold 1).withPath
        ⟨true, ["tmp", "upload"]⟩ .healthy).2.1.rest = [0x62] := by
  obtain ⟨saved, rest⟩ := withPath_prefixText ((SaveBuilder.new (⟨[.chunk 0x61 [0x62]]⟩ : Body)).setMemoryThreshold 1)
    _ _ rfl rfl (by decide) (by decide) rfl
  rw [saved]
  exact ⟨rfl, rest⟩

/-- With `memory_threshold` 0, documented to force fields to disk, the field "a" is reported
`Full` as the empty text, and no directory or file is made. -/
theorem withPath_zero_threshold_in_memory :
    ((SaveBuilder.new (⟨[.chunk 0x61 []]⟩ : Body)).setMemoryThreshold 0).withPath
        ⟨true, ["tmp", "upload"]⟩ .healthy =
      (.full (.text ⟨[], rfl⟩), ((SaveBuilder.new (⟨[.chunk 0x61 []]⟩ : Body)).setMemoryThreshold 0).saveMem.2,
        ⟨[], none⟩) :=
  (withPath_prefixText ((SaveBuilder.new (⟨[.chunk 0x61 []]⟩ : Body)).setMemoryThreshold 0) _ _ rfl rfl (by decide)
    (by decide) rfl).1

/-- A field longer than `memory_threshold` is spilled under `Ignore`, and under `Try` when its
first `memory_threshold` bytes are not UTF-8: the spill starts from those bytes, with the rest
of the field still to read. -/
theorem withPath_spills (path : Path) (fs : FileSystem) (quiet : builder.savable.failures = 0)
    (notSmall : builder.sizeLimit.any (· < builder.memoryThreshold) = false)
    (longer : builder.memoryThreshold < builder.savable.rest.length)
    (undecoded : builder.textPolicy = .ignore ∨
      builder.textPolicy = .try ∧ fromUtf8 (builder.savable.rest.take builder.memoryThreshold) = none) :
    builder.withPath path fs = { builder with savable := builder.saveMem.2 }.spill
      (builder.savable.rest.take builder.memoryThreshold) path fs := by
  obtain ⟨saved, -⟩ := builder.saveMem_beyond quiet notSmall longer
  unfold withPath
  rcases result : builder.saveMem with ⟨first, body⟩
  rw [result] at saved
  dsimp only at saved
  subst saved
  dsimp only
  rcases undecoded with policy | ⟨policy, failed⟩ <;> rw [policy]
  rw [failed]

theorem createDirAll_ok {fs : FileSystem} (created : ∀ dir, fs.createDirAll dir = .ok ()) (path : Path) :
    (createDirAll fs path).1 = .ok () := by
  unfold createDirAll; split <;> simp [created]

/-- With every filesystem call succeeding, spilling writes the buffered bytes, then the rest of
the field cut at `size_limit` again, and records the sum of the two. -/
theorem spill_quiet (bytes : List UInt8) (path : Path) {fs : FileSystem}
    (quiet : builder.savable.failures = 0) (created : ∀ dir, fs.createDirAll dir = .ok ())
    (opened : fs.openFile builder.openOpts path = .ok ()) (reliable : Writer.Reliable ⟨fs.writes, []⟩) :
    (builder.spill bytes path fs).1 = match builder.sizeLimit with
      | some limit => if builder.savable.rest.length ≤ limit
          then .full (.file path (bytes.length + builder.savable.rest.length))
          else .partly (.file path (bytes.length + limit)) .sizeLimit
      | none => .full (.file path (bytes.length + builder.savable.rest.length)) := by
  unfold spill
  rcases dirs : createDirAll fs path with ⟨_ | _, calls⟩
  · have made := createDirAll_ok created path; rw [dirs] at made; cases made
  dsimp only
  rw [opened]
  dsimp only
  rcases wrote : tryWriteAll bytes ⟨fs.writes, []⟩ with ⟨result, file⟩
  obtain ⟨rfl, fileReliable⟩ := tryWriteAll_reliable reliable wrote
  dsimp only
  rw [builder.writeTo_quiet file quiet fileReliable]
  cases builder.sizeLimit with
  | none => rfl
  | some limit => dsimp only; split_ifs <;> rfl

/-- With every filesystem call succeeding, a field that spills is saved to a file of all its
bytes, unless what follows the buffer goes past `size_limit`: then it stops `Partial` at
`memory_threshold` + `size_limit` bytes, the limit applied again after the buffer. -/
theorem withPath_spills_quiet (path : Path) {fs : FileSystem} (quiet : builder.savable.failures = 0)
    (notSmall : builder.sizeLimit.any (· < builder.memoryThreshold) = false)
    (longer : builder.memoryThreshold < builder.savable.rest.length)
    (undecoded : builder.textPolicy = .ignore ∨
      builder.textPolicy = .try ∧ fromUtf8 (builder.savable.rest.take builder.memoryThreshold) = none)
    (created : ∀ dir, fs.createDirAll dir = .ok ()) (opened : fs.openFile builder.openOpts path = .ok ())
    (reliable : Writer.Reliable ⟨fs.writes, []⟩) :
    (builder.withPath path fs).1 = match builder.sizeLimit with
      | some limit => if builder.savable.rest.length - builder.memoryThreshold ≤ limit
          then .full (.file path builder.savable.rest.length)
          else .partly (.file path (builder.memoryThreshold + limit)) .sizeLimit
      | none => .full (.file path builder.savable.rest.length) := by
  obtain ⟨-, rest, saved⟩ := builder.saveMem_beyond quiet notSmall longer
  have total : builder.memoryThreshold + (builder.savable.rest.length - builder.memoryThreshold) =
      builder.savable.rest.length := Nat.add_sub_cancel' longer.le
  rw [withPath_spills builder path fs quiet notSmall longer undecoded,
    spill_quiet { builder with savable := builder.saveMem.2 } _ _ saved created opened reliable]
  dsimp only
  rcases builder.sizeLimit with _ | limit <;> dsimp only <;>
    rw [rest, List.length_take, Nat.min_eq_left longer.le, List.length_drop, total]

/-- The field `FF FF`, not UTF-8, under `memory_threshold` 1 and `size_limit` 1, is saved `Full`
to a file of 2 bytes. -/
theorem withPath_exceeds_size_limit :
    ((((SaveBuilder.new (⟨[.chunk 0xFF [0xFF]]⟩ : Body)).setMemoryThreshold 1).setSizeLimit (some 1)).withPath
        ⟨true, ["tmp", "upload"]⟩ .healthy).1 = .full (.file ⟨true, ["tmp", "upload"]⟩ 2) :=
  withPath_spills_quiet _ _ rfl rfl (by decide) (.inr ⟨rfl, rfl⟩) (fun _ => rfl) rfl Writer.reliable_vec

/-- With no `size_limit` and every filesystem call succeeding, a field that spills is saved
`Full` to a file of all its bytes. -/
theorem withPath_spills_whole (path : Path) {fs : FileSystem} (quiet : builder.savable.failures = 0)
    (unlimited : builder.sizeLimit = none) (longer : builder.memoryThreshold < builder.savable.rest.length)
    (undecoded : builder.textPolicy = .ignore ∨
      builder.textPolicy = .try ∧ fromUtf8 (builder.savable.rest.take builder.memoryThreshold) = none)
    (created : ∀ dir, fs.createDirAll dir = .ok ()) (opened : fs.openFile builder.openOpts path = .ok ())
    (reliable : Writer.Reliable ⟨fs.writes, []⟩) :
    (builder.withPath path fs).1 = .full (.file path builder.savable.rest.length) := by
  have spilled := builder.withPath_spills_quiet path quiet (by rw [unlimited]; rfl) longer undecoded created opened
    reliable
  rwa [unlimited] at spilled

/-- When the writes of the buffer stop short, spilling reports what the write loop reported, for
the file it opened, and hands back the body after the buffer. -/
theorem spill_write_stops (bytes : List UInt8) (path : Path) {fs : FileSystem} {result : SaveResult Nat Nat}
    {file : Writer} (created : ∀ dir, fs.createDirAll dir = .ok ()) (opened : fs.openFile builder.openOpts path = .ok ())
    (wrote : tryWriteAll bytes ⟨fs.writes, []⟩ = (result, file)) (short : ∀ size, result ≠ .full size) :
    builder.spill bytes path fs = (result.map (SavedData.file path ·), builder.savable,
      ⟨(createDirAll fs path).2 ++ [.openFile builder.openOpts path], some (path, file)⟩) := by
  unfold spill
  rcases dirs : createDirAll fs path with ⟨_ | _, calls⟩
  · have made := createDirAll_ok created path; rw [dirs] at made; cases made
  simp only [opened, wrote]

/-- When the first write to the file just opened fails, spilling reports `Error`, with the file
created and left empty. -/
theorem spill_first_write_fails (bytes : List UInt8) (path : Path) {fs : FileSystem} {error : IoError}
    {writes : List Write} (created : ∀ dir, fs.createDirAll dir = .ok ())
    (opened : fs.openFile builder.openOpts path = .ok ()) (failing : fs.writes = .fail error :: writes)
    (uninterrupted : error.kind ≠ .interrupted) (nonempty : bytes ≠ []) :
    builder.spill bytes path fs = (.error error, builder.savable,
      ⟨(createDirAll fs path).2 ++ [.openFile builder.openOpts path], some (path, ⟨writes, []⟩)⟩) := by
  have failed : Writer.write bytes ⟨fs.writes, []⟩ = (.error error, ⟨writes, []⟩) := by
    simp [Writer.write, failing]
  have wrote : tryWriteAll bytes ⟨fs.writes, []⟩ = (.error error, ⟨writes, []⟩) := by
    rw [tryWriteAll, tryWriteAll.go_write_error nonempty failed, if_neg uninterrupted]
    rfl
  exact builder.spill_write_stops bytes path created opened wrote nofun

/-- The field `FF FF`, not UTF-8, under `memory_threshold` 1, on a disk whose first write fails
with `ENOSPC`: `Error`, although the file was created, and it is left behind empty. -/
theorem withPath_error_after_open :
    (((SaveBuilder.new (⟨[.chunk 0xFF [0xFF]]⟩ : Body)).setMemoryThreshold 1).withPath
        ⟨true, ["tmp", "upload"]⟩ ⟨fun _ => .ok (), fun _ _ => .ok (), [.fail ⟨.other 28⟩]⟩).1 =
        .error ⟨.other 28⟩ ∧
      (((SaveBuilder.new (⟨[.chunk 0xFF [0xFF]]⟩ : Body)).setMemoryThreshold 1).withPath
        ⟨true, ["tmp", "upload"]⟩ ⟨fun _ => .ok (), fun _ _ => .ok (), [.fail ⟨.other 28⟩]⟩).2.2 =
        ⟨[.createDirAll ⟨true, ["tmp"]⟩, .openFile (SaveBuilder.new (⟨[]⟩ : Body)).openOpts ⟨true, ["tmp", "upload"]⟩],
          some (⟨true, ["tmp", "upload"]⟩, ⟨[], []⟩)⟩ := by
  rw [withPath_spills ((SaveBuilder.new (⟨[.chunk 0xFF [0xFF]]⟩ : Body)).setMemoryThreshold 1) _ _ rfl rfl (by decide)
      (.inr ⟨rfl, rfl⟩), spill_first_write_fails _ _ _ (fun _ => rfl) rfl rfl (by decide) (by decide)]
  exact ⟨rfl, rfl⟩

end Multipart.SaveBuilder

namespace Multipart

/-- A writer that takes one byte and then fails, not with `Interrupted`, stops the write loop
after that byte: the file it writes to keeps the byte. -/
theorem tryWriteAll_one_then_fails {first : UInt8} {rest : List UInt8} {error : IoError}
    (nonempty : rest ≠ []) (uninterrupted : error.kind ≠ .interrupted) :
    tryWriteAll (first :: rest) ⟨[.accept 1, .fail error], []⟩ = (.partly 1 (.ioError error), ⟨[], [first]⟩) := by
  have took : Writer.write (first :: rest) ⟨[.accept 1, .fail error], []⟩ = (.ok 1, ⟨[.fail error], [first]⟩) := by
    simp [Writer.write]
  have failed : Writer.write rest ⟨[.fail error], [first]⟩ = (.error error, ⟨[], [first]⟩) := rfl
  rw [tryWriteAll, tryWriteAll.go_write_ok (List.cons_ne_nil _ _) took, if_neg Nat.one_ne_zero, List.drop_one,
    List.tail_cons, tryWriteAll.go_write_error nonempty failed, if_neg uninterrupted]
  rfl

/-- The field `FF FF` in one chunk, with no failure: two bytes that are not UTF-8. -/
def Body.ff : Body := ⟨[.chunk 0xFF [0xFF]]⟩

/-- The field `FF FF FF` in one chunk, with no failure. -/
def Body.threeFF : Body := ⟨[.chunk 0xFF [0xFF, 0xFF]]⟩

/-- The field "a": the one byte `61`, with no failure. -/
def Body.a : Body := ⟨[.chunk 0x61 []]⟩

/-- The field "b": the one byte `62`, with no failure. -/
def Body.b : Body := ⟨[.chunk 0x62 []]⟩

/-- A field of `DEFAULT_MEMORY_THRESHOLD` + 1 bytes `FF` in one chunk, with no failure: longer
than the buffer of a builder from `new`, and not UTF-8. -/
def Body.large : Body := ⟨[.chunk 0xFF (List.replicate defaultMemoryThreshold 0xFF)]⟩

namespace Body

/-- The large field's bytes, stated without computing them: the kernel cannot unfold 8 MiB. -/
theorem large_rest : large.rest = 0xFF :: List.replicate defaultMemoryThreshold 0xFF := by
  simp [large, rest, Fill.bytes]

theorem large_length : large.rest.length = defaultMemoryThreshold + 1 := by
  rw [large_rest, List.length_cons, List.length_replicate]

theorem large_longer : defaultMemoryThreshold < large.rest.length := by
  rw [large_length]
  exact Nat.lt_succ_self _

/-- The buffer a default save fills from the large field: `FF`, then more `FF`s. -/
theorem large_buffer :
    large.rest.take defaultMemoryThreshold =
      0xFF :: List.replicate (defaultMemoryThreshold - 1) 0xFF := by
  rw [large_rest, List.take_cons (by decide), List.take_replicate, Nat.min_eq_left (Nat.sub_le _ _)]

theorem large_undecoded : fromUtf8 (large.rest.take defaultMemoryThreshold) = none := by
  rw [large_buffer]
  exact fromUtf8_eq_none.mpr (validUtf8_ff _)

end Body

namespace SaveBuilder

/-- The builders the single-field examples spill with: `body` under `memory_threshold` 1, so that
a field of two bytes or more that is not UTF-8 goes to a file. -/
def spilling (body : Body) : SaveBuilder Body := (SaveBuilder.new body).setMemoryThreshold 1

/-- `FF FF` under `memory_threshold` 1 spills whole, on a filesystem where every call succeeds, to
a file of its 2 bytes. -/
theorem spilling_ff (path : Path) : ((spilling .ff).withPath path .healthy).1 = .full (.file path 2) :=
  withPath_spills_whole (spilling .ff) path rfl rfl (by decide) (.inr ⟨rfl, rfl⟩) (fun _ => rfl) rfl
    Writer.reliable_vec

end SaveBuilder

end Multipart
