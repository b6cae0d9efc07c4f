import Multipart.EntriesSpec

/-! `with_entries` is a fold over the stream: saving a request in one call is saving a first part
of it, then resuming on the rest into the entries the first call returned, with what is left of
the count limit. It always hands entries back to resume from: a request save fails outright only
at its start, before any field is saved. -/

namespace Multipart.SaveBuilder.Request

variable (builder : SaveBuilder FieldSource)

section Congr

variable (other : SaveBuilder FieldSource) (sized : other.sizeLimit = builder.sizeLimit)
include sized

theorem saveFile_congr : saveFile other = saveFile builder := by
  funext dir body fs name
  simp only [saveFile, sized]

/-- Which fields the loop goes past, what it records and which saves it makes read the builder
only through `count_limit` and `size_limit`. -/
theorem allPass_congr (counted : other.countLimit = builder.countLimit) : AllPass other = AllPass builder := by
  funext dir count fields
  induction fields generalizing count with
  | nil => rfl
  | cons field fields ih => simp only [AllPass, Passes, counted, saveFile_congr builder other sized, ih]

theorem recordAll_congr : recordAll other = recordAll builder := by
  have same : record other = record builder := by
    funext dir entries field
    simp only [record, saveFile_congr builder other sized]
  funext dir entries fields
  simp only [recordAll, same]

theorem saveDests_congr : saveDests other = saveDests builder := by
  funext dir fields
  simp only [saveDests, saveFile_congr builder other sized]

end Congr

/-- The loop under a count limit lowered by `shift` runs as the loop `shift` file fields on. -/
theorem go_shift (other : SaveBuilder FieldSource) {shift : Nat}
    (ending : other.savable.ending = builder.savable.ending) (sized : other.sizeLimit = builder.sizeLimit)
    (counted : other.countLimit = builder.countLimit.map (· - shift))
    (room : ∀ limit, builder.countLimit = some limit → shift ≤ limit) (count : Nat)
    (fields : List MultipartField) (entries : Entries) :
    withEntries.go other count fields entries = withEntries.go builder (count + shift) fields entries := by
  have save := saveFile_congr builder other sized
  have reached : ∀ count, other.countLimit.any (· ≤ count) = builder.countLimit.any (· ≤ count + shift) := by
    intro count
    rw [counted]
    rcases limited : builder.countLimit with _ | limit
    · rfl
    · have := room limit limited
      simp only [Option.map_some', Option.any_some, decide_eq_decide]
      omega
  induction fields generalizing count entries with
  | nil => simp only [withEntries.go, ending]
  | cons field fields ih => simp only [withEntries.go, save, reached, ih, Nat.add_right_comm]

/-- A first call over a stream that ends after `pre` is `Full` only after going past all of it. -/
theorem full_allPass {entries first : Entries} {pre : List MultipartField}
    (saved : (withEntries { builder with savable := ⟨pre, none⟩ } entries).1 = .full first) :
    AllPass builder entries.saveDir 0 pre ∧ first = recordAll builder entries.saveDir entries pre ∧
      (withEntries { builder with savable := ⟨pre, none⟩ } entries).2 = saveDests builder entries.saveDir pre := by
  obtain ⟨pre', rest, split, passing, stop, stops, run⟩ :=
    go_stops { builder with savable := ⟨pre, none⟩ } 0 pre entries
  have whole : withEntries { builder with savable := ⟨pre, none⟩ } entries = _ := run
  rw [whole] at saved ⊢
  rw [allPass_congr builder { builder with savable := ⟨pre, none⟩ } rfl rfl] at passing
  rw [recordAll_congr builder { builder with savable := ⟨pre, none⟩ } rfl] at stops
  rw [saveDests_congr builder { builder with savable := ⟨pre, none⟩ } rfl]
  cases stops with
  | ended => cases saved; rw [List.append_nil] at split; subst split; exact ⟨passing, rfl, List.append_nil _⟩
  | sourceFailed failed => cases failed
  | countLimit | savedPartly | saveFailed => cases saved

/-- Saving a request in one call is saving a first part `pre` of its stream in a call that ends
there, `Full`, then resuming on the rest into the entries that call returned, with the count limit
lowered by the file fields of `pre`: the same outcome, and the first call's file saves followed by
the second's. -/
theorem withEntries_resume (entries : Entries) {pre rest : List MultipartField} {first : Entries}
    (split : builder.savable.fields = pre ++ rest)
    (saved : (withEntries { builder with savable := ⟨pre, none⟩ } entries).1 = .full first) :
    withEntries builder entries =
      ((withEntries
          { builder with
            savable := ⟨rest, builder.savable.ending⟩
            countLimit := builder.countLimit.map (· - fileCount pre) } first).1,
        (withEntries { builder with savable := ⟨pre, none⟩ } entries).2 ++
          (withEntries
            { builder with
              savable := ⟨rest, builder.savable.ending⟩
              countLimit := builder.countLimit.map (· - fileCount pre) } first).2) := by
  obtain ⟨passing, rfl, dests⟩ := full_allPass builder saved
  have resumed := go_shift builder
    { builder with
      savable := ⟨rest, builder.savable.ending⟩
      countLimit := builder.countLimit.map (· - fileCount pre) }
    rfl rfl rfl (fun limit limited => by simpa using allPass_within builder limited passing (Nat.zero_le _)) 0 rest
    (recordAll builder entries.saveDir entries pre)
  rw [Nat.zero_add] at resumed
  rw [dests]
  unfold withEntries
  rw [split, go_append builder rest passing, Nat.zero_add, ← resumed]

/-- A request of a text field and then a file field, saved in two calls split after the text. -/
theorem withEntries_resume_text :
    (SaveBuilder.new (⟨[⟨"t", .text ⟨[0x61], rfl⟩⟩, ⟨"f", .file ⟨[.chunk 0x62 []]⟩ .healthy .sample⟩], none⟩ :
        FieldSource)).savable.fields = [⟨"t", .text ⟨[0x61], rfl⟩⟩] ++ [⟨"f", .file ⟨[.chunk 0x62 []]⟩ .healthy .sample⟩] ∧
      (withEntries { SaveBuilder.new (⟨[⟨"t", .text ⟨[0x61], rfl⟩⟩, ⟨"f", .file ⟨[.chunk 0x62 []]⟩ .healthy .sample⟩],
          none⟩ : FieldSource) with savable := ⟨[⟨"t", .text ⟨[0x61], rfl⟩⟩], none⟩ }
          (.new (.perm ⟨true, ["uploads"]⟩))).1 =
        .full ⟨[("t", ⟨[0x61], rfl⟩)], [], .perm ⟨true, ["uploads"]⟩⟩ ∧
      withEntries (SaveBuilder.new (⟨[⟨"t", .text ⟨[0x61], rfl⟩⟩, ⟨"f", .file ⟨[.chunk 0x62 []]⟩ .healthy .sample⟩],
          none⟩ : FieldSource)) (.new (.perm ⟨true, ["uploads"]⟩)) =
        ((withEntries
          { SaveBuilder.new (⟨[⟨"t", .text ⟨[0x61], rfl⟩⟩, ⟨"f", .file ⟨[.chunk 0x62 []]⟩ .healthy .sample⟩],
              none⟩ : FieldSource) with
            savable := ⟨[⟨"f", .file ⟨[.chunk 0x62 []]⟩ .healthy .sample⟩], none⟩
            countLimit := none } ⟨[("t", ⟨[0x61], rfl⟩)], [], .perm ⟨true, ["uploads"]⟩⟩).1,
          (withEntries { SaveBuilder.new (⟨[⟨"t", .text ⟨[0x61], rfl⟩⟩, ⟨"f", .file ⟨[.chunk 0x62 []]⟩ .healthy .sample⟩],
              none⟩ : FieldSource) with savable := ⟨[⟨"t", .text ⟨[0x61], rfl⟩⟩], none⟩ }
              (.new (.perm ⟨true, ["uploads"]⟩))).2 ++
            (withEntries
              { SaveBuilder.new (⟨[⟨"t", .text ⟨[0x61], rfl⟩⟩, ⟨"f", .file ⟨[.chunk 0x62 []]⟩ .healthy .sample⟩],
                  none⟩ : FieldSource) with
                savable := ⟨[⟨"f", .file ⟨[.chunk 0x62 []]⟩ .healthy .sample⟩], none⟩
                countLimit := none } ⟨[("t", ⟨[0x61], rfl⟩)], [], .perm ⟨true, ["uploads"]⟩⟩).2) :=
  ⟨rfl, rfl, withEntries_resume _ _ rfl rfl⟩

/-- `with_entries` always hands back entries: every failure after its start is a `Partial`. -/
theorem withEntries_intoEntries (entries : Entries) :
    ∃ recorded, (withEntries builder entries).1.intoEntries = some recorded := by
  obtain ⟨pre, rest, -, -, stop, stops, run⟩ := go_stops builder 0 builder.savable.fields entries
  rw [withEntries, run]
  cases stops <;> exact ⟨_, rfl⟩

/-- A whole-request save reports `Error` only at its start, before anything was done, as
`SaveResult::Error` is documented: `with_entries` always hands back entries, every later failure
being a `Partial`; `with_dir(d)` hands back none exactly when its `create_dir_all` on `d` fails,
and `temp_with_prefix` exactly when `TempDir::new` fails, and then neither made a file save. -/
theorem withDir_errors_at_start (dir : Path) (fs : FileSystem) (made : Except IoError Path) :
    (∀ entries, ∃ recorded, (withEntries builder entries).1.intoEntries = some recorded) ∧
      (((withDir builder dir fs).1.1.intoEntries = none ↔ ∃ error, (createDirAll fs dir).1 = .error error) ∧
        ((withDir builder dir fs).1.1.intoEntries = none → (withDir builder dir fs).1.2 = [])) ∧
      (((tempWithPrefix builder made).1.intoEntries = none ↔ ∃ error, made = .error error) ∧
        ((tempWithPrefix builder made).1.intoEntries = none → (tempWithPrefix builder made).2 = [])) := by
  have (entries : Entries) : (withEntries builder entries).1.intoEntries ≠ none := fun none => by
    obtain ⟨recorded, some_⟩ := withEntries_intoEntries builder entries
    rw [some_] at none
    cases none
  refine ⟨withEntries_intoEntries builder, ?_, ?_⟩
  · unfold withDir
    rcases createDirAll fs dir with ⟨_ | _, calls⟩ <;> dsimp only
    · exact ⟨⟨fun _ => ⟨_, rfl⟩, fun _ => rfl⟩, fun _ => rfl⟩
    · exact ⟨⟨fun none => absurd none (this _), fun ⟨_, failed⟩ => nomatch failed⟩, fun none => absurd none (this _)⟩
  · unfold tempWithPrefix withTempDir
    rcases made with _ | tempDir <;> dsimp only
    · exact ⟨⟨fun _ => ⟨_, rfl⟩, fun _ => rfl⟩, fun _ => rfl⟩
    · exact ⟨⟨fun none => absurd none (this _), fun ⟨_, failed⟩ => nomatch failed⟩, fun none => absurd none (this _)⟩

/-- A request saved with `with_dir(/uploads/new)` on a filesystem that refuses to create
`/uploads`: an `Error`, with no file save made. -/
theorem withDir_errors_at_start_denied :
    (withDir (SaveBuilder.new FieldSource.a) ⟨true, ["uploads", "new"]⟩ .dirsDenied).1.1 = .error ⟨.other 13⟩ ∧
      (withDir (SaveBuilder.new FieldSource.a) ⟨true, ["uploads", "new"]⟩ .dirsDenied).1.2 = [] :=
  ⟨rfl, (withDir_errors_at_start _ _ _ (.error ⟨.other 13⟩)).2.1.2 rfl⟩

end Multipart.SaveBuilder.Request
