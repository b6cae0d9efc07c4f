import Multipart.Accounting

/-! Reading saved data back: `SavedData::readable` and its `DataReader`, a reader over the bytes
kept in memory or over the saved file. What `with_path` saves reads back as a prefix of the
field, `size()` bytes long. A `Full` value holds the whole field, except the text of a buffer
that filled up, which holds only its first `memory_threshold` bytes; a `Partial` for
`size_limit` holds a first part of it, in memory or in a file. -/

namespace Multipart

/-- `DataReader`: a reader over saved bytes in memory, or over the saved file through
`BufReader`. -/
inductive DataReader
  | bytes (bytes : List UInt8)
  | file (reader : Body)

namespace DataReader

/-- `fill_buf`: a byte slice answers all it has left; the file answers as its reader does. -/
def fillBuf : DataReader → Except IoError (List UInt8) × DataReader
  | .bytes content => (.ok content, .bytes content)
  | .file reader => (reader.fillBuf.1, .file reader.fillBuf.2)

/-- `consume`: drop bytes from the front of the slice, or from the file's buffer. -/
def consume (amount : Nat) : DataReader → DataReader
  | .bytes content => .bytes (content.drop amount)
  | .file reader => .file (reader.consume amount)

def rest : DataReader → List UInt8
  | .bytes content => content
  | .file reader => reader.rest

def failures : DataReader → Nat
  | .bytes _ => 0
  | .file reader => reader.failures

theorem fillBuf_ok {src src' : DataReader} {buf : List UInt8} (filled : src.fillBuf = (.ok buf, src')) :
    src' = src ∧ buf <+: src.rest ∧ (buf = [] → src.rest = []) := by
  cases src with
  | bytes content =>
    simp only [fillBuf, Prod.mk.injEq, Except.ok.injEq] at filled
    obtain ⟨rfl, rfl⟩ := filled
    exact ⟨rfl, List.prefix_refl _, id⟩
  | file reader =>
    simp only [fillBuf, Prod.mk.injEq] at filled
    obtain ⟨filled, rfl⟩ := filled
    obtain ⟨same, prefix_, ended⟩ := Body.fillBuf_ok (Prod.ext filled rfl)
    exact ⟨congrArg file same, prefix_, ended⟩

theorem fillBuf_error {src src' : DataReader} {error : IoError} (filled : src.fillBuf = (.error error, src')) :
    src'.rest = src.rest ∧ src'.failures < src.failures := by
  cases src with
  | bytes content => simp [fillBuf] at filled
  | file reader =>
    simp only [fillBuf, Prod.mk.injEq] at filled
    obtain ⟨filled, rfl⟩ := filled
    exact Body.fillBuf_error (Prod.ext filled rfl)

theorem consume_rest {src : DataReader} {buf : List UInt8} {amount : Nat} (filled : src.fillBuf.1 = .ok buf)
    (within : amount ≤ buf.length) :
    (src.consume amount).rest = src.rest.drop amount ∧ (src.consume amount).failures ≤ src.failures := by
  cases src with
  | bytes content => exact ⟨rfl, le_rfl⟩
  | file reader => exact Body.consume_rest filled within

instance : BufRead DataReader where
  fillBuf := fillBuf
  consume := consume
  rest := rest
  failures := failures
  fillBuf_ok := fillBuf_ok
  fillBuf_error := fillBuf_error
  consume_rest := consume_rest

@[simp] theorem bufRead_rest (reader : DataReader) : BufRead.rest reader = reader.rest := rfl

end DataReader

/-- `SavedData::readable`, with `open` what `File::open` answers for a path: a reader over the
text's bytes or the bytes in memory, or over the file opened. -/
def SavedData.readable (open_ : Path → Except IoError Body) : SavedData → Except IoError DataReader
  | .text value => .ok (.bytes value.bytes)
  | .bytes content => .ok (.bytes content)
  | .file at_ _ => (open_ at_).map .file

namespace SaveBuilder

variable (builder : SaveBuilder Body)

/-- A value that stores `kept` reads back as `kept`, its `size()` bytes, from a filesystem that
keeps what was written to the file the save opened. -/
theorem Stores.readBack {dest : Dest} {kept : List UInt8} {data : SavedData} (stores : Stores dest kept data)
    {open_ : Path → Except IoError Body}
    (persists : ∀ path file, dest.file = some (path, file) → ∀ reader, open_ path = .ok reader →
      reader.rest = file.written) :
    data.size = kept.length ∧ ∀ reader, data.readable open_ = .ok reader → BufRead.rest reader = kept := by
  cases data with
  | text _ | bytes _ =>
    refine ⟨congrArg List.length stores, fun reader read => ?_⟩
    cases read
    exact stores
  | file path size =>
    obtain ⟨file, opened, written, sized⟩ := stores
    refine ⟨sized, fun reader read => ?_⟩
    rcases found : open_ path with _ | fileReader <;> rw [SavedData.readable, found] at read <;> cases read
    exact (persists path file opened fileReader found).trans written

/-- Saving and reading back: a value `with_path` returns, `Full` or `Partial`, reads back through
`readable` as a prefix of the field, `size()` bytes long, from a filesystem that keeps what was
written to the file the save opened. -/
theorem withPath_readBack (path : Path) (fs : FileSystem) (open_ : Path → Except IoError Body)
    (persists : ∀ saved file, (builder.withPath path fs).2.2.file = some (saved, file) →
      ∀ reader, open_ saved = .ok reader → reader.rest = file.written)
    {data : SavedData} (returned : (builder.withPath path fs).1.okish = some data) :
    ∃ kept, kept <+: builder.savable.rest ∧ data.size = kept.length ∧
      ∀ reader, data.readable open_ = .ok reader → BufRead.rest reader = kept := by
  have accounted := (builder.withPath_resolves path fs).accounts
  rcases run : builder.withPath path fs with ⟨result, body, dest⟩
  rw [run] at accounted persists returned
  obtain ⟨kept, lost, whole, keeps, -⟩ := accounted
  refine ⟨kept, whole ▸ (List.prefix_append _ _).trans (List.prefix_append _ _), ?_⟩
  rcases result with saved | ⟨saved, reason⟩ | error <;>
    simp only [SaveResult.okish_full, SaveResult.okish_partly, SaveResult.okish_error, SaveResult.into_self,
      Option.some.injEq, reduceCtorEq] at returned <;> subst returned
  all_goals exact Stores.readBack keeps persists

/-- `FF FF` under `memory_threshold` 1 spills whole to a file; a filesystem that keeps what was
written reads the file back as the whole field. -/
theorem withPath_readBack_ff :
    (∀ saved file, ((spilling .ff).withPath ⟨true, ["tmp", "upload"]⟩ .healthy).2.2.file = some (saved, file) →
        ∀ reader, (fun _ => .ok .ff : Path → Except IoError Body) saved = .ok reader → reader.rest = file.written) ∧
      ((spilling .ff).withPath ⟨true, ["tmp", "upload"]⟩ .healthy).1.okish = some (.file ⟨true, ["tmp", "upload"]⟩ 2) ∧
      ∃ kept, kept <+: Body.ff.rest ∧ (SavedData.file ⟨true, ["tmp", "upload"]⟩ 2).size = kept.length ∧
        ∀ reader, (SavedData.file ⟨true, ["tmp", "upload"]⟩ 2).readable (fun _ => .ok .ff) = .ok reader →
          BufRead.rest reader = kept := by
  obtain ⟨file, opened, written⟩ := spilling_ff_written ⟨true, ["tmp", "upload"]⟩
  have persists : ∀ saved file, ((spilling .ff).withPath ⟨true, ["tmp", "upload"]⟩ .healthy).2.2.file =
      some (saved, file) → ∀ reader, (fun _ => .ok .ff : Path → Except IoError Body) saved = .ok reader →
        reader.rest = file.written := by
    intro saved file' same reader read
    rw [opened, Option.some.injEq, Prod.mk.injEq] at same
    obtain ⟨-, rfl⟩ := same
    cases read
    exact written.symm
  have returned : ((spilling .ff).withPath ⟨true, ["tmp", "upload"]⟩ .healthy).1.okish =
      some (.file ⟨true, ["tmp", "upload"]⟩ 2) := by
    rw [spilling_ff]
    rfl
  exact ⟨persists, returned, withPath_readBack _ _ _ _ persists returned⟩

/-- A spill that returns `Full` has read the field to its end. -/
theorem spill_full_ends (bytes : List UInt8) (path : Path) (fs : FileSystem) {saved : SavedData}
    (full : (builder.spill bytes path fs).1 = .full saved) : (builder.spill bytes path fs).2.1.rest = [] := by
  revert full
  unfold spill
  rcases createDirAll fs path with ⟨_ | _, calls⟩ <;> dsimp only
  · exact nofun
  rcases fs.openFile builder.openOpts path with _ | _ <;> dsimp only
  · exact nofun
  rcases tryWriteAll bytes ⟨fs.writes, []⟩ with ⟨_ | _ | _, file⟩ <;> dsimp only
  · obtain ⟨-, -, ended, -⟩ := builder.writeTo_spec file
    rcases run : builder.writeTo file with ⟨_ | _ | _, body, file'⟩ <;> rw [run] at ended
    · exact fun _ => ended _ rfl
    all_goals exact nofun
  all_goals exact nofun

/-- What a `Full` outcome of `with_path` leaves of the field: nothing; or, when the value is the
text of a buffer that filled up, all but its first `memory_threshold` bytes. -/
theorem withPath_full_ends (path : Path) (fs : FileSystem) {saved : SavedData}
    (full : (builder.withPath path fs).1 = .full saved) :
    (builder.withPath path fs).2.1.rest = [] ∨
      builder.textPolicy ≠ .ignore ∧ ∃ text, saved = .text text ∧
        text.bytes = builder.savable.rest.take builder.memoryThreshold ∧
        builder.memoryThreshold < builder.savable.rest.length ∧
        (builder.withPath path fs).2.1.rest = builder.savable.rest.drop builder.memoryThreshold := by
  have memSaved := builder.saveMem_memSaved
  revert full
  unfold withPath
  rcases result : builder.saveMem with ⟨⟨bytes, _ | _⟩ | _ | _, body⟩ <;> rw [result] at memSaved <;> dsimp only
  · obtain ⟨⟨prefix_, rest, -⟩, -, -, more⟩ := memSaved
    obtain ⟨-, length, unread⟩ := more rfl
    have beyond : builder.memoryThreshold < builder.savable.rest.length := by
      have := prefix_.length_le
      have : builder.savable.rest.length ≠ bytes.length := fun same => unread (by simp [rest, same])
      omega
    have taken : bytes = builder.savable.rest.take builder.memoryThreshold := by
      rw [← length]
      exact List.prefix_iff_eq_take.mp prefix_
    have kept : body.rest = builder.savable.rest.drop builder.memoryThreshold := by rw [rest, length]
    rcases builder.textPolicy with _ | _ | _ <;> dsimp only
    · rcases decoded : fromUtf8 bytes with _ | text <;> dsimp only
      · exact fun full => .inl (spill_full_ends _ bytes path fs full)
      · rintro ⟨⟩
        exact .inr ⟨nofun, text, rfl, (fromUtf8_bytes decoded).trans taken, beyond, kept⟩
    · rcases decoded : fromUtf8 bytes with _ | text <;> dsimp only
      · exact nofun
      · rintro ⟨⟩
        exact .inr ⟨nofun, text, rfl, (fromUtf8_bytes decoded).trans taken, beyond, kept⟩
    · exact fun full => .inl (spill_full_ends _ bytes path fs full)
  · exact fun _ => .inl (memSaved.2.2.1 rfl)
  all_goals exact nofun

/-- What `Full` means for `with_path`: the field was read to its end, and the value stores all of
it (its text's bytes, its bytes in memory, or the content of the file it names, of the size it
records); or, under `Try` or `Force`, the value is the text of exactly the first
`memory_threshold` bytes of a longer field, whose rest is left unread in the body. -/
theorem withPath_full_whole (path : Path) (fs : FileSystem) {saved : SavedData}
    (full : (builder.withPath path fs).1 = .full saved) :
    (builder.withPath path fs).2.1.rest = [] ∧ Stores (builder.withPath path fs).2.2 builder.savable.rest saved ∨
      builder.textPolicy ≠ .ignore ∧ ∃ text, saved = .text text ∧
        text.bytes = builder.savable.rest.take builder.memoryThreshold ∧
        builder.memoryThreshold < builder.savable.rest.length ∧
        (builder.withPath path fs).2.1.rest = builder.savable.rest.drop builder.memoryThreshold := by
  refine (builder.withPath_full_ends path fs full).imp_left fun ended => ⟨ended, ?_⟩
  have accounted := (builder.withPath_resolves path fs).accounts
  rcases run : builder.withPath path fs with ⟨result, body, dest⟩
  rw [run] at accounted full ended
  obtain ⟨kept, lost, whole, keeps, lossless⟩ := accounted
  cases full
  obtain rfl : lost = [] := lossless.resolve_right fun lossy => lossy.2
  rw [ended, List.append_nil, List.append_nil] at whole
  exact whole ▸ keeps

/-- `FF FF` under `memory_threshold` 1 is saved `Full` to a file: the field was read to its end and
both bytes were written to the file. -/
theorem withPath_full_whole_ff :
    ((spilling .ff).withPath ⟨true, ["tmp", "upload"]⟩ .healthy).1 = .full (.file ⟨true, ["tmp", "upload"]⟩ 2) ∧
      ((spilling .ff).withPath ⟨true, ["tmp", "upload"]⟩ .healthy).2.1.rest = [] ∧
      ∃ file, ((spilling .ff).withPath ⟨true, ["tmp", "upload"]⟩ .healthy).2.2.file =
          some (⟨true, ["tmp", "upload"]⟩, file) ∧ file.written = Body.ff.rest := by
  have full := spilling_ff ⟨true, ["tmp", "upload"]⟩
  rcases withPath_full_whole _ _ _ full with ⟨ended, file, opened, written, -⟩ | ⟨-, text, wrong, -⟩
  · exact ⟨full, ended, file, opened, written⟩
  · cases wrong

/-- `save_mem` cuts its buffer at `size_limit` only on its first path, a limit below
`memory_threshold`: on the other, the limit that stops the copy is the threshold itself. -/
theorem saveMem_cut_small (bytes : List UInt8) (cut : builder.saveMem.1 = .partly bytes .sizeLimit) :
    builder.sizeLimit.any (· < builder.memoryThreshold) = true := by
  revert cut
  unfold saveMem
  split
  · exact fun _ => ‹_›
  · rcases tryCopyLimited builder.savable Writer.vec builder.memoryThreshold with
      ⟨_ | ⟨_, _ | _ | _⟩ | _, body, buffer⟩ <;> exact nofun

/-- A spill cut at `size_limit` has recorded the buffer and `size_limit` bytes more, and the
field goes on. -/
theorem spill_cut (bytes : List UInt8) (path : Path) (fs : FileSystem) {data : SavedData}
    (cut : (builder.spill bytes path fs).1 = .partly data .sizeLimit) :
    ∃ limit, builder.sizeLimit = some limit ∧ data = .file path (bytes.length + limit) ∧
      (builder.spill bytes path fs).2.1.rest ≠ [] := by
  revert cut
  unfold spill
  rcases createDirAll fs path with ⟨_ | _, calls⟩ <;> dsimp only
  · exact nofun
  rcases fs.openFile builder.openOpts path with _ | _ <;> dsimp only
  · exact nofun
  rcases wrote : tryWriteAll bytes ⟨fs.writes, []⟩ with ⟨size | ⟨size, reason⟩ | error, file⟩ <;> dsimp only
  · obtain rfl := tryWriteAll_full wrote
    obtain ⟨-, -, -, sizeLimit, -⟩ := builder.writeTo_spec file
    rcases run : builder.writeTo file with ⟨_ | ⟨n, reason⟩ | _, body, file'⟩ <;> rw [run] at sizeLimit <;>
      dsimp only
    · exact nofun
    · rintro ⟨⟩
      obtain ⟨sized, more⟩ := sizeLimit n rfl
      exact ⟨n, sized, rfl, more⟩
    · exact nofun
  · obtain ⟨error, rfl⟩ := tryWriteAll_partly wrote
    exact nofun
  · exact nofun

/-- How `with_path` comes to a `Partial` for `size_limit`: under a limit below
`memory_threshold`, with the buffer cut at the limit and no filesystem call; otherwise with a
spill cut at the limit after the whole buffer. Either way the field goes on. -/
theorem withPath_cut (path : Path) (fs : FileSystem) {data : SavedData}
    (cut : (builder.withPath path fs).1 = .partly data .sizeLimit) :
    ∃ limit, builder.sizeLimit = some limit ∧ (builder.withPath path fs).2.1.rest ≠ [] ∧
      (limit < builder.memoryThreshold ∧ (∃ buffer, data = .bytes buffer ∧ buffer.length = limit) ∧
          (builder.withPath path fs).2.2 = ⟨[], none⟩ ∨
        builder.memoryThreshold ≤ limit ∧ data = .file path (builder.memoryThreshold + limit)) := by
  have memSaved := builder.saveMem_memSaved
  revert cut
  unfold withPath
  rcases result : builder.saveMem with ⟨⟨bytes, _ | _⟩ | ⟨bytes, reason⟩ | _, body⟩ <;> rw [result] at memSaved <;>
    dsimp only
  · obtain ⟨-, -, -, more⟩ := memSaved
    obtain ⟨notSmall, length, -⟩ := more rfl
    have spilled : ({ builder with savable := body }.spill bytes path fs).1 = .partly data .sizeLimit →
        ∃ limit, builder.sizeLimit = some limit ∧ ({ builder with savable := body }.spill bytes path fs).2.1.rest ≠ [] ∧
          (limit < builder.memoryThreshold ∧ (∃ buffer, data = .bytes buffer ∧ buffer.length = limit) ∧
              ({ builder with savable := body }.spill bytes path fs).2.2 = ⟨[], none⟩ ∨
            builder.memoryThreshold ≤ limit ∧ data = .file path (builder.memoryThreshold + limit)) := by
      intro cut
      obtain ⟨limit, sized, rfl, more⟩ := ({ builder with savable := body } : SaveBuilder Body).spill_cut bytes path fs cut
      have sized : builder.sizeLimit = some limit := sized
      refine ⟨limit, sized, more, .inr ⟨?_, by rw [length]⟩⟩
      simpa only [sized, Option.any_some, decide_eq_false_iff_not, not_lt] using notSmall
    rcases builder.textPolicy with _ | _ | _ <;> dsimp only
    · rcases fromUtf8 bytes with _ | text <;> dsimp only
      · exact spilled
      · exact nofun
    · rcases fromUtf8 bytes with _ | text <;> exact nofun
    · exact spilled
  · exact nofun
  · rintro ⟨⟩
    obtain ⟨limit, sized, length, more⟩ := memSaved.2.2.1 rfl
    have below := builder.saveMem_cut_small bytes (by rw [result])
    rw [sized] at below
    exact ⟨limit, sized, more, .inl ⟨by simpa using below, ⟨bytes, rfl, length⟩, rfl⟩⟩
  · exact nofun

/-- What a `Partial` for `size_limit` means for `with_path`, documented as "the file was partially
written to the filesystem": `size_limit` L was set and the field goes on past what is kept. Under
L below `memory_threshold` T the value is the first L bytes of the field in memory, and nothing was
done on the filesystem; otherwise the value is a file at the path holding exactly the first T + L
bytes of the field. -/
theorem withPath_sizeLimit_partial (path : Path) (fs : FileSystem) {data : SavedData}
    (cut : (builder.withPath path fs).1 = .partly data .sizeLimit) :
    ∃ limit, builder.sizeLimit = some limit ∧ (builder.withPath path fs).2.1.rest ≠ [] ∧
      (limit < builder.memoryThreshold ∧ data = .bytes (builder.savable.rest.take limit) ∧
          (builder.withPath path fs).2.2 = ⟨[], none⟩ ∨
        builder.memoryThreshold ≤ limit ∧ data = .file path (builder.memoryThreshold + limit) ∧
          Stores (builder.withPath path fs).2.2 (builder.savable.rest.take (builder.memoryThreshold + limit)) data) := by
  obtain ⟨limit, sized, more, shape⟩ := builder.withPath_cut path fs cut
  have accounted := (builder.withPath_resolves path fs).accounts
  rcases run : builder.withPath path fs with ⟨result, body, dest⟩
  rw [run] at accounted cut more shape
  obtain ⟨kept, lost, whole, keeps, lossless⟩ := accounted
  cases cut
  obtain rfl : lost = [] := lossless.resolve_right fun ⟨_, _, wrong⟩ => nomatch wrong
  rw [List.append_nil] at whole
  have taken : ∀ n, kept.length = n → kept = builder.savable.rest.take n := fun n length => by
    rw [← whole, ← length, List.take_left]
  refine ⟨limit, sized, more, ?_⟩
  rcases shape with ⟨below, ⟨buffer, rfl, length⟩, none⟩ | ⟨above, rfl⟩
  · have same : buffer = kept := keeps
    subst same
    exact .inl ⟨below, by rw [← taken limit length], none⟩
  · obtain ⟨file, opened, written, size⟩ := keeps
    rw [taken _ size.symm] at written
    exact .inr ⟨above, rfl, file, opened, written, by rw [← taken _ size.symm]; exact size⟩

/-- `FF FF FF` under `memory_threshold` 1 and `size_limit` 1: `Partial` on the size limit, with the
first two bytes written to a file and the third left to read. -/
theorem withPath_sizeLimit_partial_fff :
    (((spilling .threeFF).setSizeLimit (some 1)).withPath ⟨true, ["tmp", "upload"]⟩ .healthy).1 =
        .partly (.file ⟨true, ["tmp", "upload"]⟩ 2) .sizeLimit ∧
      (((spilling .threeFF).setSizeLimit (some 1)).withPath ⟨true, ["tmp", "upload"]⟩ .healthy).2.1.rest ≠ [] ∧
      ∃ file, (((spilling .threeFF).setSizeLimit (some 1)).withPath ⟨true, ["tmp", "upload"]⟩ .healthy).2.2.file =
          some (⟨true, ["tmp", "upload"]⟩, file) ∧ file.written = [0xFF, 0xFF] := by
  have cut : (((spilling .threeFF).setSizeLimit (some 1)).withPath ⟨true, ["tmp", "upload"]⟩ .healthy).1 =
      .partly (.file ⟨true, ["tmp", "upload"]⟩ 2) .sizeLimit :=
    withPath_spills_quiet _ _ rfl rfl (by decide) (.inr ⟨rfl, rfl⟩) (fun _ => rfl) rfl Writer.reliable_vec
  obtain ⟨limit, sized, more, shape⟩ := withPath_sizeLimit_partial _ _ _ cut
  cases sized
  rcases shape with ⟨below, -⟩ | ⟨-, -, file, opened, written, -⟩
  · exact absurd below (by decide)
  · exact ⟨cut, more, file, opened, written⟩

end SaveBuilder

end Multipart
