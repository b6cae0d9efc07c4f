import Multipart.EntriesSpec

/-! Interrupted writes are retried: a writer with `Interrupted` failures put in among its answers
takes the same bytes as the writer without them. So `try_write_all`, the copy loops, `write_to`,
`with_path` and a whole `with_entries` give the same results, leave the same bytes to read and
write the same content to every file. -/

namespace Multipart

/-- `writes'` is `writes` with `Interrupted` failures put in before some of its answers or after
the last. -/
inductive WriteInterrupts : List Write → List Write → Prop
  | nil : WriteInterrupts [] []
  | interrupt {writes' writes : List Write} (rest : WriteInterrupts writes' writes) :
    WriteInterrupts (.fail ⟨.interrupted⟩ :: writes') writes
  | keep (answer : Write) {writes' writes : List Write} (rest : WriteInterrupts writes' writes) :
    WriteInterrupts (answer :: writes') (answer :: writes)

theorem WriteInterrupts.refl : (writes : List Write) → WriteInterrupts writes writes
  | [] => .nil
  | answer :: writes => .keep answer (refl writes)

namespace Writer

/-- `dest'` is `dest` with interrupts put in among its answers, having taken the same bytes. -/
def Retries (dest' dest : Writer) : Prop :=
  WriteInterrupts dest'.writes dest.writes ∧ dest'.written = dest.written

/-- One `write` call: the interrupted writer answers one of the interrupts put in and stays
related to the other, or both answer alike and stay related. -/
theorem write_retries {dest' dest dest'' : Writer} {buf : List UInt8} {answer : Except IoError Nat}
    (related : Retries dest' dest) (wrote : dest'.write buf = (answer, dest'')) :
    (answer = .error ⟨.interrupted⟩ ∧ Retries dest'' dest) ∨
      ∃ dest₂, dest.write buf = (answer, dest₂) ∧ Retries dest'' dest₂ := by
  obtain ⟨scripts, same⟩ := related
  rcases dest' with ⟨writes', written⟩
  rcases dest with ⟨writes, _⟩
  dsimp only at scripts same
  subst same
  cases scripts with
  | nil =>
    simp only [write, Prod.mk.injEq] at wrote
    obtain ⟨rfl, rfl⟩ := wrote
    exact .inr ⟨_, rfl, .nil, rfl⟩
  | interrupt rest =>
    simp only [write, Prod.mk.injEq] at wrote
    obtain ⟨rfl, rfl⟩ := wrote
    exact .inl ⟨rfl, rest, rfl⟩
  | keep given rest =>
    cases given <;> simp only [write, Prod.mk.injEq] at wrote <;> obtain ⟨rfl, rfl⟩ := wrote
    all_goals exact .inr ⟨_, rfl, rest, rfl⟩

end Writer

namespace tryWriteAll

/-- The write loop on a writer with interrupts put in ends as on the writer without them. -/
theorem go_retries (total : Nat) (buf : List UInt8) (dest' : Writer) :
    ∀ dest, dest'.Retries dest → (go total buf dest').1 = (go total buf dest).1 ∧
      (go total buf dest').2.Retries (go total buf dest).2 := by
  induction total, buf, dest' using go.induct with
  | case1 total dest' => intro dest related; rw [go_nil_buf, go_nil_buf]; exact ⟨rfl, related⟩
  | case2 total buf dest' nonempty error dest'' wrote interrupted ih =>
    intro dest related
    rw [go_write_error nonempty wrote, if_pos interrupted]
    rcases Writer.write_retries related wrote with ⟨-, related'⟩ | ⟨dest₂, wrote₂, related'⟩
    · exact ih dest related'
    · rw [go_write_error nonempty wrote₂, if_pos interrupted]
      exact ih dest₂ related'
  | case3 total buf dest' nonempty error dest'' wrote interrupted =>
    intro dest related
    rw [go_write_error nonempty wrote, if_neg interrupted]
    rcases Writer.write_retries related wrote with ⟨inserted, -⟩ | ⟨dest₂, wrote₂, related'⟩
    · cases inserted
      exact absurd rfl interrupted
    · rw [go_write_error nonempty wrote₂, if_neg interrupted]
      exact ⟨rfl, related'⟩
  | case4 total buf dest' nonempty dest'' wrote =>
    intro dest related
    rw [go_write_ok nonempty wrote, if_pos rfl]
    rcases Writer.write_retries related wrote with ⟨inserted, -⟩ | ⟨dest₂, wrote₂, related'⟩
    · cases inserted
    · rw [go_write_ok nonempty wrote₂, if_pos rfl]
      exact ⟨rfl, related'⟩
  | case5 total buf dest' nonempty copied dest'' wrote nonzero ih =>
    intro dest related
    rw [go_write_ok nonempty wrote, if_neg nonzero]
    rcases Writer.write_retries related wrote with ⟨inserted, -⟩ | ⟨dest₂, wrote₂, related'⟩
    · cases inserted
    · rw [go_write_ok nonempty wrote₂, if_neg nonzero]
      exact ih dest₂ related'

end tryWriteAll

theorem tryWriteAll_retries {buf : List UInt8} {dest' dest dest'' : Writer}
    {result : SaveResult Nat Nat} (related : dest'.Retries dest)
    (wrote : tryWriteAll buf dest' = (result, dest'')) :
    ∃ dest₂, tryWriteAll buf dest = (result, dest₂) ∧ dest''.Retries dest₂ := by
  obtain ⟨same, related'⟩ : (tryWriteAll buf dest').1 = (tryWriteAll buf dest).1 ∧
      (tryWriteAll buf dest').2.Retries (tryWriteAll buf dest).2 :=
    tryWriteAll.go_retries 0 buf dest' dest related
  rw [wrote] at same related'
  exact ⟨(tryWriteAll buf dest).2, Prod.ext same.symm rfl, related'⟩

namespace tryCopyBuf

variable {σ : Type} [BufRead σ]

/-- The copy loop over a writer with interrupts put in ends as over the writer without them,
and leaves the reader where that run leaves it. -/
theorem go_retries (total : Nat) (src : σ) (dest' : Writer) :
    ∀ dest, dest'.Retries dest → (go total src dest').1 = (go total src dest).1 ∧
      (go total src dest').2.1 = (go total src dest).2.1 ∧
      (go total src dest').2.2.Retries (go total src dest).2.2 := by
  induction total, src, dest' using go.induct with
  | case1 total src dest' error src' filled interrupted ih =>
    intro dest related
    simp only [go_fill_error filled, if_pos interrupted]
    exact ih dest related
  | case2 total src dest' error src' filled interrupted =>
    intro dest related
    simpa only [go_fill_error filled, if_neg interrupted, true_and] using related
  | case3 total src dest' src' filled =>
    intro dest related
    simpa only [go_fill_end filled, true_and] using related
  | case4 total src dest' buf src' filled nonempty copied dest'' wrote ih =>
    intro dest related
    obtain ⟨dest₂, wrote₂, related'⟩ := tryWriteAll_retries related wrote
    rw [go_write_full filled nonempty wrote, go_write_full filled nonempty wrote₂]
    exact ih dest₂ related'
  | case5 total src dest' buf src' filled nonempty copied reason dest'' wrote =>
    intro dest related
    obtain ⟨dest₂, wrote₂, related'⟩ := tryWriteAll_retries related wrote
    rw [go_write_partly filled nonempty wrote, go_write_partly filled nonempty wrote₂]
    exact ⟨rfl, rfl, related'⟩
  | case6 total src dest' buf src' filled nonempty error dest'' wrote =>
    intro dest related
    obtain ⟨dest₂, wrote₂, related'⟩ := tryWriteAll_retries related wrote
    rw [go_write_error filled nonempty wrote, go_write_error filled nonempty wrote₂]
    exact ⟨rfl, rfl, related'⟩

end tryCopyBuf

section

variable {σ : Type} [BufRead σ] {src src' : σ} {dest' dest dest'' : Writer} {result : SaveResult Nat Nat}

theorem tryCopyBuf_retries (related : dest'.Retries dest)
    (copied : tryCopyBuf src dest' = (result, src', dest'')) :
    ∃ dest₂, tryCopyBuf src dest = (result, src', dest₂) ∧ dest''.Retries dest₂ := by
  obtain ⟨same, left, related'⟩ : (tryCopyBuf src dest').1 = (tryCopyBuf src dest).1 ∧
      (tryCopyBuf src dest').2.1 = (tryCopyBuf src dest).2.1 ∧
      (tryCopyBuf src dest').2.2.Retries (tryCopyBuf src dest).2.2 :=
    tryCopyBuf.go_retries 0 src dest' dest related
  rw [copied] at same left related'
  exact ⟨(tryCopyBuf src dest).2.2, Prod.ext same.symm (Prod.ext left.symm rfl), related'⟩

theorem tryCopyLimited_retries {limit : Nat} (related : dest'.Retries dest)
    (copied : tryCopyLimited src dest' limit = (result, src', dest'')) :
    ∃ dest₂, tryCopyLimited src dest limit = (result, src', dest₂) ∧ dest''.Retries dest₂ := by
  unfold tryCopyLimited at copied ⊢
  rcases run' : tryCopyBuf (Take.mk src limit) dest' with ⟨outcome, taken, out'⟩
  obtain ⟨out, run, related'⟩ := tryCopyBuf_retries related run'
  rw [run'] at copied
  rw [run]
  rcases outcome with _ | _ | _ <;> dsimp only at copied ⊢
  · rcases peeked : BufRead.fillBuf taken.inner with ⟨_ | _, _⟩ <;> rw [peeked] at copied <;>
      cases copied <;> exact ⟨out, rfl, related'⟩
  all_goals cases copied; exact ⟨out, rfl, related'⟩

end

theorem Writer.Retries.refl (dest : Writer) : dest.Retries dest := ⟨.refl _, rfl⟩

/-- Two destinations alike but for interrupts put in among the answers of the file opened: the
same calls, and the same file, holding the same bytes. -/
def Dest.Retries (dest' dest : Dest) : Prop :=
  dest'.calls = dest.calls ∧
    Option.Rel (fun opened' opened => opened'.1 = opened.1 ∧ opened'.2.Retries opened.2) dest'.file dest.file

theorem Dest.Retries.refl : (dest : Dest) → dest.Retries dest
  | ⟨_, none⟩ => ⟨rfl, .none⟩
  | ⟨_, some (_, file)⟩ => ⟨rfl, .some ⟨rfl, .refl file⟩⟩

namespace SaveBuilder

variable (builder : SaveBuilder Body) {writes : List Write} {fs : FileSystem}

theorem writeTo_retries {dest' dest dest'' : Writer} {result : SaveResult Nat Nat} {body : Body}
    (related : dest'.Retries dest) (wrote : builder.writeTo dest' = (result, body, dest'')) :
    ∃ dest₂, builder.writeTo dest = (result, body, dest₂) ∧ dest''.Retries dest₂ := by
  unfold writeTo at wrote ⊢
  rcases sized : builder.sizeLimit with _ | limit <;> rw [sized] at wrote
  · exact tryCopyBuf_retries related wrote
  · exact tryCopyLimited_retries related wrote

theorem spill_retries (bytes : List UInt8) (path : Path) (related : WriteInterrupts writes fs.writes) :
    (builder.spill bytes path { fs with writes }).1 = (builder.spill bytes path fs).1 ∧
      (builder.spill bytes path { fs with writes }).2.1 = (builder.spill bytes path fs).2.1 ∧
      (builder.spill bytes path { fs with writes }).2.2.Retries (builder.spill bytes path fs).2.2 := by
  have created : createDirAll { fs with writes } path = createDirAll fs path := rfl
  unfold spill
  rw [created]
  rcases createDirAll fs path with ⟨_ | ⟨⟩, calls⟩
  · exact ⟨rfl, rfl, .refl _⟩
  dsimp only
  rcases fs.openFile builder.openOpts path with _ | ⟨⟩
  · exact ⟨rfl, rfl, .refl _⟩
  dsimp only
  rcases wrote' : tryWriteAll bytes ⟨writes, []⟩ with ⟨outcome, file'⟩
  obtain ⟨file, wrote, related'⟩ := tryWriteAll_retries
    (⟨related, rfl⟩ : Writer.Retries ⟨writes, []⟩ ⟨fs.writes, []⟩) wrote'
  rw [wrote]
  rcases outcome with size | _ | _ <;> dsimp only
  · rcases copied' : builder.writeTo file' with ⟨written, body, out'⟩
    obtain ⟨out, copied, related''⟩ := writeTo_retries builder related' copied'
    rw [copied]
    exact ⟨rfl, rfl, rfl, .some ⟨rfl, related''⟩⟩
  all_goals exact ⟨rfl, rfl, rfl, .some ⟨rfl, related'⟩⟩

/-- Interrupted writes to the file `with_path` opens change nothing: the same result, the same
bytes left in the field, the same filesystem calls, and the same content in the file. -/
theorem withPath_retries (path : Path) (related : WriteInterrupts writes fs.writes) :
    (builder.withPath path { fs with writes }).1 = (builder.withPath path fs).1 ∧
      (builder.withPath path { fs with writes }).2.1 = (builder.withPath path fs).2.1 ∧
      (builder.withPath path { fs with writes }).2.2.Retries (builder.withPath path fs).2.2 := by
  unfold withPath
  rcases builder.saveMem with ⟨⟨bytes, _ | _⟩ | _ | _, body⟩
  · rcases builder.textPolicy with _ | _ | _ <;> dsimp only
    · rcases fromUtf8 bytes with _ | _ <;> dsimp only
      · exact spill_retries _ bytes path related
      · exact ⟨rfl, rfl, .refl _⟩
    · exact ⟨rfl, rfl, .refl _⟩
    · exact spill_retries _ bytes path related
  all_goals exact ⟨rfl, rfl, .refl _⟩

end SaveBuilder

/-- Two fields alike but for interrupts put in among the answers of the file a file field's save
opens. -/
inductive MultipartField.Retries : MultipartField → MultipartField → Prop
  | text (name : String) (text : RustString) : Retries ⟨name, .text text⟩ ⟨name, .text text⟩
  | file (name : String) (body : Body) (fs : FileSystem) (random : RandomName) {writes : List Write}
    (related : WriteInterrupts writes fs.writes) :
    Retries ⟨name, .file body { fs with writes } random⟩ ⟨name, .file body fs random⟩

namespace SaveBuilder.Request

variable (builder : SaveBuilder FieldSource)

theorem saveFile_retries {dir : SaveDir} {body body' : Body} {fs : FileSystem} {random : RandomName}
    {writes : List Write} {result : FieldSaveResult} {dest : Dest}
    (related : WriteInterrupts writes fs.writes)
    (saved : saveFile builder dir body fs random = (result, body', dest)) :
    ∃ dest', saveFile builder dir body { fs with writes } random = (result, body', dest') ∧
      dest'.Retries dest := by
  obtain ⟨same, left, related'⟩ :=
    ((SaveBuilder.new body).setSizeLimit builder.sizeLimit).withPath_retries (dir.asPath.join random.name) related
  unfold saveFile SaveBuilder.withDir at saved ⊢
  rw [saved] at same left related'
  dsimp only at same left related'
  exact ⟨_, Prod.ext same (Prod.ext left rfl), related'⟩

/-- The loop over fields alike but for interrupted writes ends alike, and each file save it makes
has the same calls and puts the same content in its file. -/
theorem go_retries (request : FieldSource) (ending : request.ending = builder.savable.ending)
    {fields' fields : List MultipartField} (related : List.Forall₂ MultipartField.Retries fields' fields)
    (count : Nat) (entries : Entries) :
    (withEntries.go { builder with savable := request } count fields' entries).1 =
        (withEntries.go builder count fields entries).1 ∧
      List.Forall₂ Dest.Retries (withEntries.go { builder with savable := request } count fields' entries).2
        (withEntries.go builder count fields entries).2 := by
  have save : saveFile { builder with savable := request } = saveFile builder := rfl
  induction related generalizing count entries with
  | nil =>
    rcases ended : builder.savable.ending with _ | _ <;>
      simpa only [withEntries.go, ending, ended, true_and] using .nil
  | cons field _ ih =>
    cases field with
    | text name text => exact ih _ _
    | file name body fs random interrupts =>
      simp only [withEntries.go, save]
      split
      · exact ⟨rfl, .nil⟩
      rcases saved : saveFile builder entries.saveDir body fs random with ⟨_ | _ | _, body', dest⟩ <;>
        obtain ⟨dest', saved', related'⟩ := saveFile_retries builder interrupts saved <;>
        rw [saved'] <;> dsimp only
      · exact ⟨(ih _ _).1, .cons related' (ih _ _).2⟩
      all_goals exact ⟨rfl, .cons related' .nil⟩

/-- Interrupted writes to the files a request's save opens change nothing: the same result, and
for every file field saved the same filesystem calls and the same content in its file. -/
theorem withEntries_retries (entries : Entries) {fields : List MultipartField}
    (related : List.Forall₂ MultipartField.Retries fields builder.savable.fields) :
    (withEntries { builder with savable := { builder.savable with fields } } entries).1 =
        (withEntries builder entries).1 ∧
      List.Forall₂ Dest.Retries (withEntries { builder with savable := { builder.savable with fields } } entries).2
        (withEntries builder entries).2 :=
  go_retries builder { builder.savable with fields } rfl related 0 entries

/-- The request of the large field, on a filesystem where every call succeeds, is saved `Full`: the
field goes whole to `/uploads/abcdefghijkl`. -/
theorem withEntries_large :
    (withEntries (SaveBuilder.new FieldSource.large) (.new (.perm ⟨true, ["uploads"]⟩))).1 =
      .full ⟨[], [("f", [.file ⟨true, ["uploads", "abcdefghijkl"]⟩ (defaultMemoryThreshold + 1)])],
        .perm ⟨true, ["uploads"]⟩⟩ := by
  have stored : (saveFile (SaveBuilder.new FieldSource.large) (.perm ⟨true, ["uploads"]⟩) .large .healthy .sample).1 =
      .full (.file ⟨true, ["uploads", "abcdefghijkl"]⟩ (defaultMemoryThreshold + 1)) :=
    (SaveBuilder.withPath_spills_whole ((SaveBuilder.new Body.large).setSizeLimit none) _ rfl rfl Body.large_longer
      (.inr ⟨rfl, Body.large_undecoded⟩) (fun _ => rfl) rfl Writer.reliable_vec).trans
      (congrArg (fun size => SaveResult.full (SavedData.file _ size)) Body.large_length)
  rcases outcome : saveFile (SaveBuilder.new FieldSource.large) (.perm ⟨true, ["uploads"]⟩) .large .healthy .sample
    with ⟨result, body, dest⟩
  rw [outcome] at stored
  subst stored
  have first : (SaveBuilder.new FieldSource.large).savable.fields = [⟨"f", .file .large .healthy .sample⟩] := rfl
  rw [withEntries, first, go_saved (SaveBuilder.new FieldSource.large) rfl rfl outcome]
  rfl

/-- The large field's file answers its first write with `Interrupted`: the save retries the write
and stores the whole field in its file, as it does on a filesystem where every write succeeds,
with the same calls and the same bytes written. -/
theorem withEntries_retries_large :
    List.Forall₂ MultipartField.Retries FieldSource.largeInterrupted.fields FieldSource.large.fields ∧
      (withEntries (SaveBuilder.new FieldSource.largeInterrupted) (.new (.perm ⟨true, ["uploads"]⟩))).1 =
        .full ⟨[], [("f", [.file ⟨true, ["uploads", "abcdefghijkl"]⟩ (defaultMemoryThreshold + 1)])],
          .perm ⟨true, ["uploads"]⟩⟩ ∧
      List.Forall₂ Dest.Retries
        (withEntries (SaveBuilder.new FieldSource.largeInterrupted) (.new (.perm ⟨true, ["uploads"]⟩))).2
        (withEntries (SaveBuilder.new FieldSource.large) (.new (.perm ⟨true, ["uploads"]⟩))).2 := by
  have related : List.Forall₂ MultipartField.Retries FieldSource.largeInterrupted.fields FieldSource.large.fields :=
    .cons (.file _ _ FileSystem.healthy _ (.interrupt .nil)) .nil
  have retried := withEntries_retries (SaveBuilder.new FieldSource.large) (.new (.perm ⟨true, ["uploads"]⟩)) related
  exact ⟨related, retried.1.trans withEntries_large, retried.2⟩

end SaveBuilder.Request

end Multipart
