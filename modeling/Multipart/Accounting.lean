import Multipart.Locations

/-! Where every byte of a field goes in a single-field save: kept by the outcome, still unread in
the body handed back, or lost; bytes are lost only on an outcome that reports a failure, never
more than the buffer `save_mem` filled. Then the bound `size_limit` really puts on what a save
stores, for one field and for the files of a whole request. -/

namespace Multipart.SaveBuilder

/-- The bytes a saved value stands for: its text's bytes, its bytes in memory, or the bytes the
save wrote to the file it opened, whose recorded size is exactly how many it wrote. -/
def Stores (dest : Dest) (kept : List UInt8) : SavedData → Prop
  | .text text => text.bytes = kept
  | .bytes bytes => bytes = kept
  | .file path size => ∃ file, dest.file = some (path, file) ∧ file.written = kept ∧ size = kept.length

/-- What an outcome keeps: what its value stores, `Full` or `Partial`; an `Error` keeps nothing. -/
def Keeps (dest : Dest) (kept : List UInt8) : FieldSaveResult → Prop
  | .full data | .partly data _ => Stores dest kept data
  | .error _ => kept = []

/-- An outcome that reports a failure: an `Error`, or a `Partial` for an I/O error. -/
def Fails : FieldSaveResult → Prop
  | .full _ => False
  | .partly _ reason => ∃ error, reason = .ioError error
  | .error _ => True

/-- `content` is accounted for by a save: what its outcome keeps, then what it lost, then what is
left to read in the body it hands back. A loss is at most `bound` bytes, and only on an outcome
that reports a failure. -/
def Accounts (content : List UInt8) (bound : Nat) : FieldSaveResult × Body × Dest → Prop
  | (result, body, dest) => ∃ kept lost, kept ++ lost ++ body.rest = content ∧ Keeps dest kept result ∧
    (lost = [] ∨ lost.length ≤ bound ∧ Fails result)

/-- A failure that drops a buffer of at most `bound` bytes and hands back the body after it. -/
theorem accounts_drop {bytes rest : List UInt8} {bound : Nat} {error : IoError} {body : Body}
    {dest : Dest} (short : bytes.length ≤ bound) (left : body.rest = rest) :
    Accounts (bytes ++ rest) bound (.error error, body, dest) :=
  ⟨[], bytes, by rw [left]; rfl, rfl, .inr ⟨short, trivial⟩⟩

variable (builder : SaveBuilder Body)

/-- A copy after the buffer was written whole: the save wrote the buffer, then what the copy took
from the body, to the file, and records their size; a failed copy loses the buffer. -/
theorem writeTo_accounts {bytes : List UInt8} {path : Path} {calls : List FsCall} {bound : Nat}
    (short : bytes.length ≤ bound) {file : Writer} (holds : file.written = bytes) :
    Accounts (bytes ++ builder.savable.rest) bound
      ((builder.writeTo file).1.map ((SavedData.file path bytes.length).addSize ·),
        (builder.writeTo file).2.1, ⟨calls, some (path, (builder.writeTo file).2.2)⟩) := by
  obtain ⟨⟨copied, written, rest⟩, -⟩ := builder.writeTo_spec file
  rcases run : builder.writeTo file with ⟨taken | ⟨taken, reason⟩ | error, body, file'⟩ <;>
    simp only [run, Body.bufRead_rest, SaveResult.progress] at copied written rest
  pick_goal 3
  · exact accounts_drop short (by rw [rest]; rfl)
  all_goals
    refine ⟨bytes ++ builder.savable.rest.take taken, [], ?_, ⟨file', rfl, by rw [written, holds], ?_⟩,
      .inl rfl⟩
    · rw [rest, List.append_nil, List.append_assoc, List.take_append_drop]
    · simp only [SavedData.addSize, SaveResult.into_self, List.length_append, List.length_take]; omega

/-- Spilling accounts for the buffer and the rest of the body: a failure before the buffer is
written whole loses what of it did not reach the file. -/
theorem spill_accounts (bytes : List UInt8) (path : Path) (fs : FileSystem) {bound : Nat}
    (short : bytes.length ≤ bound) :
    Accounts (bytes ++ builder.savable.rest) bound (builder.spill bytes path fs) := by
  unfold spill
  rcases createDirAll fs path with ⟨_ | _, calls⟩ <;> dsimp only
  · exact accounts_drop short rfl
  rcases fs.openFile builder.openOpts path with _ | _ <;> dsimp only
  · exact accounts_drop short rfl
  rcases wrote : tryWriteAll bytes ⟨fs.writes, []⟩ with ⟨size | ⟨size, reason⟩ | error, file⟩ <;>
    obtain ⟨bounded, written⟩ := tryWriteAll_written wrote <;>
    simp only [SaveResult.progress, List.nil_append] at bounded written <;> dsimp only
  · obtain rfl := tryWriteAll_full wrote
    rw [List.take_length] at written
    exact builder.writeTo_accounts short written
  · refine ⟨bytes.take size, bytes.drop size, by rw [List.take_append_drop], ⟨file, rfl, written, ?_⟩,
      .inr ⟨by simp only [List.length_drop]; omega, tryWriteAll_partly wrote⟩⟩
    simp only [SaveResult.into_self, List.length_take]; omega
  · exact accounts_drop short rfl

/-- Spilling under `size_limit` writes at most the buffer and `size_limit` bytes more to the file,
and records no more than that. -/
theorem spill_bounded (bytes : List UInt8) (path : Path) (fs : FileSystem) {limit : Nat}
    (sized : builder.sizeLimit = some limit) :
    Carries (fun data => data.size ≤ bytes.length + limit) (builder.spill bytes path fs).1 ∧
      ∀ saved file, (builder.spill bytes path fs).2.2.file = some (saved, file) →
        file.written.length ≤ bytes.length + limit := by
  unfold spill
  rcases createDirAll fs path with ⟨_ | _, calls⟩ <;> dsimp only
  · exact ⟨trivial, fun _ _ absent => nomatch absent⟩
  rcases fs.openFile builder.openOpts path with _ | _ <;> dsimp only
  · exact ⟨trivial, fun _ _ absent => nomatch absent⟩
  rcases wrote : tryWriteAll bytes ⟨fs.writes, []⟩ with ⟨size | ⟨size, reason⟩ | error, file⟩ <;>
    obtain ⟨bounded, written⟩ := tryWriteAll_written wrote <;>
    simp only [SaveResult.progress, List.nil_append] at bounded written <;> dsimp only
  · obtain rfl := tryWriteAll_full wrote
    obtain ⟨⟨-, cwritten, -⟩, within, -⟩ := builder.writeTo_spec file
    have short := within limit sized
    rcases run : builder.writeTo file with ⟨taken | ⟨taken, reason⟩ | error, body, file'⟩ <;>
      simp only [run, SaveResult.progress] at cwritten short
    all_goals
      have grown : file'.written.length ≤ bytes.length + limit := by
        rw [cwritten, written, List.length_append, List.length_take, List.length_take]; omega
      refine ⟨?_, fun _ _ same => by cases same; exact grown⟩
    · simp only [SaveResult.map_full, Carries, SavedData.addSize, SavedData.size]; omega
    · simp only [SaveResult.map_partly, SaveResult.into_self, Carries, SavedData.addSize, SavedData.size]; omega
    · trivial
  · refine ⟨?_, fun _ _ same => by cases same; rw [written, List.length_take]; omega⟩
    simp only [SaveResult.map_partly, SaveResult.into_self, Carries, SavedData.size]; omega
  · exact ⟨trivial, fun _ _ same => by cases same; simp [written]⟩

theorem Taken.append_rest {body body' : Body} {bytes : List UInt8} (taken : Taken body bytes body') :
    bytes ++ body'.rest = body.rest := by
  rw [taken.2.1]
  exact List.prefix_iff_eq_append.mp taken.1

/-- How `with_path` ends, by what `save_mem` buffered: a failed read before any byte; the buffer
kept in memory, whole or cut, or decoded as text; `Force` rejecting it; or the buffer spilled to a
file. Every buffer is taken from the front of the field, within `memory_threshold`. -/
inductive Resolves (path : Path) (fs : FileSystem) : FieldSaveResult × Body × Dest → Prop
  | readFailed {error : IoError} {body : Body} (left : body.rest = builder.savable.rest) :
    Resolves path fs (.error error, body, ⟨[], none⟩)
  | kept {bytes : List UInt8} {body : Body} (taken : Taken builder.savable bytes body)
    (short : bytes.length ≤ builder.memoryThreshold) :
    Resolves path fs (.full (.bytes bytes), body, ⟨[], none⟩)
  | cut {bytes : List UInt8} {body : Body} {reason : PartialReason} (taken : Taken builder.savable bytes body)
    (short : bytes.length ≤ builder.memoryThreshold) :
    Resolves path fs (.partly (.bytes bytes) reason, body, ⟨[], none⟩)
  | decoded {bytes : List UInt8} {body : Body} {text : RustString} (taken : Taken builder.savable bytes body)
    (short : bytes.length ≤ builder.memoryThreshold) (decodes : fromUtf8 bytes = some text) :
    Resolves path fs (.full (.text text), body, ⟨[], none⟩)
  | rejected {bytes : List UInt8} {body : Body} (taken : Taken builder.savable bytes body)
    (short : bytes.length ≤ builder.memoryThreshold) :
    Resolves path fs (.error ⟨.invalidData⟩, body, ⟨[], none⟩)
  | spilled {bytes : List UInt8} {body : Body} (taken : Taken builder.savable bytes body)
    (short : bytes.length ≤ builder.memoryThreshold) :
    Resolves path fs ({ builder with savable := body }.spill bytes path fs)

theorem withPath_resolves (path : Path) (fs : FileSystem) :
    builder.Resolves path fs (builder.withPath path fs) := by
  have memSaved := builder.saveMem_memSaved
  unfold withPath
  rcases saved : builder.saveMem with ⟨⟨bytes, complete⟩ | ⟨bytes, reason⟩ | error, body⟩ <;>
    rw [saved] at memSaved
  · obtain ⟨taken, ⟨short, -⟩, -⟩ := memSaved
    cases complete <;> dsimp only
    · rcases builder.textPolicy with _ | _ | _ <;> dsimp only
      · rcases text : fromUtf8 bytes with _ | _
        · exact .spilled taken short
        · exact .decoded taken short text
      · rcases text : fromUtf8 bytes with _ | _
        · exact .rejected taken short
        · exact .decoded taken short text
      · exact .spilled taken short
    · exact .kept taken short
  · exact .cut memSaved.1 memSaved.2.1.1
  · exact .readFailed memSaved.1

variable {builder} in
/-- Every way `with_path` can end accounts for the field: a buffer kept or decoded leaves the rest
of the body unread, a rejected one is lost, and a spill accounts for the buffer and the body
after it. -/
theorem Resolves.accounts {path : Path} {fs : FileSystem} {run : FieldSaveResult × Body × Dest}
    (resolves : builder.Resolves path fs run) : Accounts builder.savable.rest builder.memoryThreshold run := by
  cases resolves with
  | readFailed left => exact ⟨[], [], left, rfl, .inl rfl⟩
  | kept taken | cut taken => exact ⟨_, [], by rw [List.append_nil, taken.append_rest], rfl, .inl rfl⟩
  | decoded taken _ decodes =>
    exact ⟨_, [], by rw [List.append_nil, taken.append_rest], fromUtf8_bytes decodes, .inl rfl⟩
  | rejected taken short => exact taken.append_rest ▸ accounts_drop short rfl
  | @spilled bytes body taken short =>
    simpa only [taken.append_rest] using
      ({ builder with savable := body } : SaveBuilder Body).spill_accounts bytes path fs short

/-- Every byte of the field is accounted for by `with_path`: kept by the outcome (as text, as
bytes, or written to the file it names, of the size it records), lost, or left to read in the
body it hands back, in that order. Bytes are lost only when the outcome reports a failure (an
`Error`, or a `Partial` for an I/O error), and never more than `memory_threshold` of them: the
buffer `save_mem` filled, dropped by `Force` on invalid UTF-8, by a failure to create or open the
file, by a failure to write it, or by a failure reading the body once it was written. -/
theorem withPath_accounts (path : Path) (fs : FileSystem) :
    Accounts builder.savable.rest builder.memoryThreshold (builder.withPath path fs) :=
  (builder.withPath_resolves path fs).accounts

/-- An outcome `into_result_strict` accepts reports no failure, and what it keeps is what the
value it gives stores. -/
theorem Keeps.strict {dest : Dest} {kept : List UInt8} {result : FieldSaveResult} {data : SavedData}
    (keeps : Keeps dest kept result) (accepted : result.intoResultStrict = .ok data) :
    Stores dest kept data ∧ ¬ Fails result := by
  rcases result with saved | ⟨saved, _ | _ | error⟩ | error <;> cases accepted
  all_goals exact ⟨keeps, by simp [Fails]⟩

/-- What `into_result_strict` accepts lost no byte: the value it gives, then what is left to read
in the body handed back, is the whole field. (`into_result` also accepts a `Partial` for an I/O
error, after which up to `memory_threshold` bytes may be lost.) -/
theorem withPath_strict_lossless (path : Path) (fs : FileSystem) {data : SavedData}
    (accepted : (builder.withPath path fs).1.intoResultStrict = .ok data) :
    ∃ kept, kept ++ (builder.withPath path fs).2.1.rest = builder.savable.rest ∧
      Stores (builder.withPath path fs).2.2 kept data := by
  have accounted := (builder.withPath_resolves path fs).accounts
  rcases run : builder.withPath path fs with ⟨result, body, dest⟩
  rw [run] at accounted accepted
  obtain ⟨kept, lost, whole, keeps, lossless⟩ := accounted
  obtain ⟨stores, fine⟩ := keeps.strict accepted
  obtain rfl : lost = [] := lossless.resolve_right fun lossy => fine lossy.2
  exact ⟨kept, by rwa [List.append_nil] at whole, stores⟩

/-- `FF FF` under `memory_threshold` 1 writes both its bytes to the file it spills to. -/
theorem spilling_ff_written (path : Path) :
    ∃ file, ((spilling .ff).withPath path .healthy).2.2.file = some (path, file) ∧ file.written = [0xFF, 0xFF] := by
  have full := spilling_ff path
  have accounted := ((spilling .ff).withPath_resolves path .healthy).accounts
  rcases run : (spilling .ff).withPath path .healthy with ⟨result, body, dest⟩
  rw [run] at accounted full
  obtain ⟨kept, lost, whole, keeps, -⟩ := accounted
  cases full
  obtain ⟨file, opened, written, size⟩ := keeps
  have prefix_ : kept <+: (spilling .ff).savable.rest := whole ▸ (List.prefix_append _ _).trans (List.prefix_append _ _)
  exact ⟨file, opened, written.trans (prefix_.eq_of_length size.symm)⟩

/-- `FF FF` under `memory_threshold` 1, spilled whole: `into_result_strict` gives the file, to
which the save wrote the whole field. -/
theorem withPath_strict_lossless_ff :
    ((spilling .ff).withPath ⟨true, ["tmp", "upload"]⟩ .healthy).1.intoResultStrict =
        .ok (.file ⟨true, ["tmp", "upload"]⟩ 2) ∧
      ∃ kept, kept ++ ((spilling .ff).withPath ⟨true, ["tmp", "upload"]⟩ .healthy).2.1.rest = Body.ff.rest ∧
        Stores ((spilling .ff).withPath ⟨true, ["tmp", "upload"]⟩ .healthy).2.2 kept
          (.file ⟨true, ["tmp", "upload"]⟩ 2) := by
  have accepted : ((spilling .ff).withPath ⟨true, ["tmp", "upload"]⟩ .healthy).1.intoResultStrict =
      .ok (.file ⟨true, ["tmp", "upload"]⟩ 2) := by
    rw [spilling_ff]
    rfl
  exact ⟨accepted, withPath_strict_lossless _ _ _ accepted⟩

theorem Carries.imp {holds holds' : SavedData → Prop} {result : FieldSaveResult} (carried : Carries holds result)
    (implies : ∀ data, holds data → holds' data) : Carries holds' result := by
  cases result <;> first | exact implies _ carried | trivial

variable {builder} in
/-- Under `size_limit`, every way `with_path` can end stores at most `memory_threshold` plus
`size_limit` bytes, and writes no more than that to the file it opens. -/
theorem Resolves.sizeBound {path : Path} {fs : FileSystem} {run : FieldSaveResult × Body × Dest}
    (resolves : builder.Resolves path fs run) {limit : Nat} (sized : builder.sizeLimit = some limit) :
    Carries (fun data => data.size ≤ builder.memoryThreshold + limit) run.1 ∧
      ∀ saved file, run.2.2.file = some (saved, file) → file.written.length ≤ builder.memoryThreshold + limit := by
  cases resolves with
  | readFailed | rejected => exact ⟨trivial, fun _ _ absent => nomatch absent⟩
  | kept _ short | cut _ short => exact ⟨Nat.le_add_right_of_le short, fun _ _ absent => nomatch absent⟩
  | decoded _ short decodes =>
    refine ⟨?_, fun _ _ absent => nomatch absent⟩
    simp only [Carries, SavedData.size, fromUtf8_bytes decodes]
    omega
  | @spilled bytes body _ short =>
    obtain ⟨carried, written⟩ :=
      ({ builder with savable := body } : SaveBuilder Body).spill_bounded bytes path fs sized
    refine ⟨carried.imp fun _ small => by omega, fun saved file opened => ?_⟩
    have := written saved file opened
    omega

/-- The bound `size_limit` really puts on `with_path`: what it stores, in memory or in the file it
names, and all it writes to the file it opens, is at most `memory_threshold` plus `size_limit`
bytes, the limit being applied afresh to the stream after the buffer `save_mem` filled. -/
theorem withPath_bounded (path : Path) (fs : FileSystem) {limit : Nat} (sized : builder.sizeLimit = some limit) :
    Carries (fun data => data.size ≤ builder.memoryThreshold + limit) (builder.withPath path fs).1 ∧
      ∀ saved file, (builder.withPath path fs).2.2.file = some (saved, file) →
        file.written.length ≤ builder.memoryThreshold + limit :=
  (builder.withPath_resolves path fs).sizeBound sized

/-- The field `FF FF` under `memory_threshold` 1 and `size_limit` 1. -/
theorem withPath_bounded_ff :
    (((SaveBuilder.new (⟨[.chunk 0xFF [0xFF]]⟩ : Body)).setMemoryThreshold 1).setSizeLimit (some 1)).sizeLimit =
        some 1 ∧
      Carries (fun data => data.size ≤ 1 + 1)
        ((((SaveBuilder.new (⟨[.chunk 0xFF [0xFF]]⟩ : Body)).setMemoryThreshold 1).setSizeLimit (some 1)).withPath
          ⟨true, ["tmp", "upload"]⟩ .healthy).1 ∧
      ∀ saved file, ((((SaveBuilder.new (⟨[.chunk 0xFF [0xFF]]⟩ : Body)).setMemoryThreshold 1).setSizeLimit
          (some 1)).withPath ⟨true, ["tmp", "upload"]⟩ .healthy).2.2.file = some (saved, file) →
        file.written.length ≤ 1 + 1 :=
  ⟨rfl, withPath_bounded _ _ _ rfl⟩

namespace Request

variable (builder : SaveBuilder FieldSource)

/-- A file field's save inside a request, at the default memory threshold. -/
theorem saveFile_accounts (dir : SaveDir) (body : Body) (fs : FileSystem) (name : RandomName) :
    Accounts body.rest defaultMemoryThreshold (saveFile builder dir body fs name) :=
  (((SaveBuilder.new body).setSizeLimit builder.sizeLimit).withPath_resolves _ fs).accounts

/-- The field `stopped` that a `Partial` outcome of the request's save hands back, with `reason`,
can be resumed: it is the file field after a prefix of the stream the loop went past, and its
source continues that field's body right after what its partial file keeps (nothing, when it has
none) and what was lost. Bytes are lost only when the save stopped on an I/O error, never more
than the default memory threshold of the field's save. -/
def Resumable (entries : Entries) (reason : PartialReason) (stopped : PartialSavedField) : Prop :=
  ∃ pre field more body fs name, builder.savable.fields = pre ++ field :: more ∧
    AllPass builder entries.saveDir 0 pre ∧ field.name = stopped.fieldName ∧
    field.data = .file body fs name ∧
    ∃ kept lost, kept ++ lost ++ stopped.source.rest = body.rest ∧
      (∀ saved, stopped.dest = some saved →
        ∃ dest, (withEntries builder entries).2.getLast? = some dest ∧ Stores dest kept saved) ∧
      (stopped.dest = none → kept = []) ∧
      (lost = [] ∨ lost.length ≤ defaultMemoryThreshold ∧ ∃ error, reason = .ioError error)

/-- Every field a `Partial` outcome of `with_entries` hands back can be resumed. -/
theorem withEntries_partial_resumes (entries : Entries) {partialEntries : PartialEntries}
    {reason : PartialReason} {stopped : PartialSavedField}
    (outcome : (withEntries builder entries).1 = .partly partialEntries reason)
    (returned : partialEntries.partialFile = some stopped) :
    Resumable builder entries reason stopped := by
  obtain ⟨pre, rest, split, passing, stop, stops, run⟩ := go_stops builder 0 builder.savable.fields entries
  have whole : withEntries builder entries = _ := run
  rw [whole] at outcome
  rw [Resumable, whole]
  cases stops with
  | ended => cases outcome
  | sourceFailed => cases outcome; cases returned
  | countLimit file =>
    cases outcome; cases returned
    exact ⟨pre, _, _, _, _, _, split, passing, rfl, file, [], [], rfl, (fun _ absent => nomatch absent),
      fun _ => rfl, .inl rfl⟩
  | savedPartly file _ saved =>
    cases outcome; cases returned
    obtain ⟨kept, lost, left, stores, lossy⟩ := saved ▸ saveFile_accounts builder _ _ _ _
    refine ⟨pre, _, _, _, _, _, split, passing, rfl, file, kept, lost, left, fun _ same => ?_,
      (fun absent => nomatch absent), lossy⟩
    cases same
    exact ⟨_, List.getLast?_concat _, stores⟩
  | saveFailed file _ saved =>
    cases outcome; cases returned
    obtain ⟨kept, lost, left, rfl, lossy⟩ := saved ▸ saveFile_accounts builder _ _ _ _
    exact ⟨pre, _, _, _, _, _, split, passing, rfl, file, [], lost, left, (fun _ absent => nomatch absent),
      fun _ => rfl, lossy.imp_right fun ⟨short, _⟩ => ⟨short, _, rfl⟩⟩

/-- The save of the large field on the disk that fills after one byte spills it, writes one byte to
`/uploads/abcdefghijkl` and stops `Partial` on `ENOSPC`, the rest of the buffer lost. -/
theorem saveFile_fullAfterOne : ∃ source dest,
    saveFile (SaveBuilder.new FieldSource.largeOnFullDisk) (.perm ⟨true, ["uploads"]⟩) .large .fullAfterOne .sample =
      (.partly (.file ⟨true, ["uploads", "abcdefghijkl"]⟩ 1) (.ioError ⟨.other 28⟩), source, dest) := by
  have wrote : tryWriteAll (Body.large.rest.take defaultMemoryThreshold) ⟨FileSystem.fullAfterOne.writes, []⟩ =
      (.partly 1 (.ioError ⟨.other 28⟩), ⟨[], [0xFF]⟩) := by
    rw [Body.large_buffer]
    exact tryWriteAll_one_then_fails (mt (List.replicate_eq_nil_iff _).mp (by decide)) (by decide)
  unfold saveFile SaveBuilder.withDir
  rw [SaveBuilder.withPath_spills
      ((SaveBuilder.new Body.large).setSizeLimit (SaveBuilder.new FieldSource.largeOnFullDisk).sizeLimit) _ _ rfl rfl
      Body.large_longer (.inr ⟨rfl, Body.large_undecoded⟩)]
  exact ⟨_, _, SaveBuilder.spill_write_stops _ _ _ (fun _ => rfl) rfl wrote nofun⟩

/-- Two saves that stop `Partial`. A request's only file field, met at count limit 0, is handed
back untouched. The large field on a disk that fills after one byte is handed back with its
partial file: the one byte the save wrote is kept, the rest of the buffer is lost to the I/O
error, and its source goes on after the buffer. -/
theorem withEntries_partial_resumes_stops :
    (withEntries ((SaveBuilder.new FieldSource.a).setCountLimit (some 0)) (.new (.perm ⟨true, ["uploads"]⟩))).1 =
        .partly ⟨.new (.perm ⟨true, ["uploads"]⟩), some ⟨"f", .a, none⟩⟩ .countLimit ∧
      Resumable ((SaveBuilder.new FieldSource.a).setCountLimit (some 0)) (.new (.perm ⟨true, ["uploads"]⟩))
        .countLimit ⟨"f", .a, none⟩ ∧
      ∃ source, (withEntries (SaveBuilder.new FieldSource.largeOnFullDisk) (.new (.perm ⟨true, ["uploads"]⟩))).1 =
          .partly ⟨.new (.perm ⟨true, ["uploads"]⟩),
            some ⟨"f", source, some (.file ⟨true, ["uploads", "abcdefghijkl"]⟩ 1)⟩⟩ (.ioError ⟨.other 28⟩) ∧
        Resumable (SaveBuilder.new FieldSource.largeOnFullDisk) (.new (.perm ⟨true, ["uploads"]⟩))
          (.ioError ⟨.other 28⟩) ⟨"f", source, some (.file ⟨true, ["uploads", "abcdefghijkl"]⟩ 1)⟩ := by
  obtain ⟨source, dest, outcome⟩ := saveFile_fullAfterOne
  have first : (SaveBuilder.new FieldSource.largeOnFullDisk).savable.fields =
      [⟨"f", .file .large .fullAfterOne .sample⟩] := rfl
  have stopped : (withEntries (SaveBuilder.new FieldSource.largeOnFullDisk) (.new (.perm ⟨true, ["uploads"]⟩))).1 =
      .partly ⟨.new (.perm ⟨true, ["uploads"]⟩), some ⟨"f", source, some (.file ⟨true, ["uploads", "abcdefghijkl"]⟩ 1)⟩⟩
        (.ioError ⟨.other 28⟩) := by
    rw [withEntries, first, go_partly (SaveBuilder.new FieldSource.largeOnFullDisk) rfl rfl outcome]
  exact ⟨rfl, withEntries_partial_resumes _ _ rfl rfl, source, stopped, withEntries_partial_resumes _ _ stopped rfl⟩

/-- The bound `size_limit` puts on the files a request's save writes: each holds at most the
default memory threshold plus `size_limit` bytes, whatever `memory_threshold` the builder has. -/
theorem withEntries_files_bounded (entries : Entries) {limit : Nat} (sized : builder.sizeLimit = some limit) :
    ∀ dest ∈ (withEntries builder entries).2, ∀ saved file, dest.file = some (saved, file) →
      file.written.length ≤ defaultMemoryThreshold + limit := by
  intro dest member
  obtain ⟨body, fs, name, rfl⟩ := withEntries_dests builder entries member
  exact ((((SaveBuilder.new body).setSizeLimit builder.sizeLimit).withPath_resolves _ fs).sizeBound sized).2

/-- The request of the large field under `size_limit` `DEFAULT_MEMORY_THRESHOLD`: its save spills
the field, and the file it writes takes no more than twice the default threshold. -/
theorem withEntries_files_bounded_large :
    ((SaveBuilder.new FieldSource.large).setSizeLimit (some defaultMemoryThreshold)).sizeLimit =
        some defaultMemoryThreshold ∧
      ∃ dest ∈ (withEntries ((SaveBuilder.new FieldSource.large).setSizeLimit (some defaultMemoryThreshold))
          (.new (.perm ⟨true, ["uploads"]⟩))).2,
        ∃ saved file, dest.file = some (saved, file) ∧
          file.written.length ≤ defaultMemoryThreshold + defaultMemoryThreshold := by
  have member := withEntries_first_dest ((SaveBuilder.new FieldSource.large).setSizeLimit (some defaultMemoryThreshold))
    (.new (.perm ⟨true, ["uploads"]⟩)) rfl rfl rfl
  obtain ⟨file, opened⟩ := (SaveBuilder.withPath_opens_spilled
    ((SaveBuilder.new Body.large).setSizeLimit (some defaultMemoryThreshold)) _ .healthy rfl (by decide) Body.large_longer
    (.inr ⟨rfl, Body.large_undecoded⟩) (fun _ => rfl) rfl).2
  exact ⟨rfl, _, member, _, file, opened, withEntries_files_bounded _ _ rfl _ member _ _ opened⟩

end Request

end Multipart.SaveBuilder
