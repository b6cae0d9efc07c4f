import Multipart.FieldSpec
import Multipart.Entries
import Mathlib.Algebra.Order.Ring.Nat

/-! What `with_entries` guarantees: the fields before its stopping point are recorded, each once
under its own name and in stream order, and it stops at the first field it cannot go past. -/

namespace Multipart

namespace Entries

/-- How many saved files `entries` holds. -/
def fileTotal (entries : Entries) : Nat := (entries.files.map fun entry => entry.2.length).sum

/-- Every field name `entries` holds files for holds at least one. -/
def NonemptyFiles (entries : Entries) : Prop := ∀ entry ∈ entries.files, entry.2 ≠ []

theorem fileTotal_push (entries : Entries) (field : String) (saved : SavedData) :
    (entries.mutFilesFor field (· ++ [saved])).fileTotal = entries.fileTotal + 1 := by
  obtain ⟨fields, files, saveDir⟩ := entries
  simp only [fileTotal, mutFilesFor]
  induction files with
  | nil => rfl
  | cons entry rest ih =>
    obtain ⟨name, saved'⟩ := entry
    by_cases same : name = field
    · simp [updateFiles, same]; omega
    · simp [updateFiles, same, ih]; omega

theorem nonemptyFiles_push {entries : Entries} (nonempty : entries.NonemptyFiles) (field : String)
    (saved : SavedData) : (entries.mutFilesFor field (· ++ [saved])).NonemptyFiles := by
  obtain ⟨fields, files, saveDir⟩ := entries
  simp only [NonemptyFiles, mutFilesFor] at nonempty ⊢
  induction files with
  | nil => simp [updateFiles]
  | cons entry rest ih =>
    obtain ⟨name, saved'⟩ := entry
    have restNonempty : ∀ entry ∈ rest, entry.2 ≠ [] := fun entry member =>
      nonempty entry (List.mem_cons_of_mem _ member)
    by_cases same : name = field
    · simp only [updateFiles, same, if_true, List.mem_cons, forall_eq_or_imp]
      exact ⟨by simp, restNonempty⟩
    · simp only [updateFiles, same, if_false, List.mem_cons, forall_eq_or_imp]
      exact ⟨nonempty _ (List.mem_cons_self _ _), ih restNonempty⟩

end Entries

/-- `keep_partial` adds the saved part of the field in progress under that field's name, and
nothing else. -/
theorem PartialEntries.keepPartial_adds (partialEntries : PartialEntries) :
    partialEntries.keepPartial.fields = partialEntries.entries.fields ∧
      partialEntries.keepPartial.saveDir = partialEntries.entries.saveDir ∧
      ∀ name, partialEntries.keepPartial.filesFor name = partialEntries.entries.filesFor name ++
        match partialEntries.partialFile with
        | some ⟨field, _, some saved⟩ => if field = name then [saved] else []
        | _ => [] := by
  unfold keepPartial
  rcases partialEntries with ⟨entries, _ | ⟨field, source, _ | saved⟩⟩
  all_goals refine ⟨rfl, rfl, fun name => ?_⟩
  all_goals try simp only [List.append_nil]
  rw [Entries.filesFor_mutFilesFor]
  split <;> simp

/-- A request of file fields, each a name and the body it holds, saved on a filesystem where
every call succeeds and under the sample random name; the stream ends after them. -/
def FieldSource.ofFiles (files : List (String × Body)) : FieldSource :=
  ⟨files.map fun file => ⟨file.1, .file file.2 .healthy .sample⟩, none⟩

/-- A request of one file field "f" holding the large field, longer than a default buffer. -/
def FieldSource.large : FieldSource := .ofFiles [("f", .large)]

/-- A request of one file field "f" holding "a". -/
def FieldSource.a : FieldSource := .ofFiles [("f", .a)]

/-- A request of two file fields: "f" holding "a", then "g" holding "b". -/
def FieldSource.ab : FieldSource := .ofFiles [("f", .a), ("g", .b)]

/-- A filesystem that refuses every `create_dir_all` with `EACCES` (errno 13). -/
def FileSystem.dirsDenied : FileSystem := { FileSystem.healthy with createDirAll := fun _ => .error ⟨.other 13⟩ }

/-- A filesystem where every call succeeds, but the opened file takes one byte and then fails
with `ENOSPC` (errno 28). -/
def FileSystem.fullAfterOne : FileSystem := { FileSystem.healthy with writes := [.accept 1, .fail ⟨.other 28⟩] }

/-- A filesystem where every call succeeds, but the opened file answers its first write with
`Interrupted`. -/
def FileSystem.interruptedOnce : FileSystem := { FileSystem.healthy with writes := [.fail ⟨.interrupted⟩] }

/-- A request of one file field "f" holding the large field, whose file answers its first write
with `Interrupted`. -/
def FieldSource.largeInterrupted : FieldSource := ⟨[⟨"f", .file .large .interruptedOnce .sample⟩], none⟩

/-- A request of one file field "f" holding the large field, whose file fills up after one byte. -/
def FieldSource.largeOnFullDisk : FieldSource := ⟨[⟨"f", .file .large .fullAfterOne .sample⟩], none⟩

namespace SaveBuilder.Request

variable (builder : SaveBuilder FieldSource)

/-- A field the loop goes past when `count` file fields were saved before it: a text field, or a
file field within the count limit whose save is `Full`. -/
def Passes (dir : SaveDir) (count : Nat) (field : MultipartField) : Prop :=
  match field.data with
  | .text _ => True
  | .file body fs name => builder.countLimit.any (· ≤ count) = false ∧
    ∃ saved, (saveFile builder dir body fs name).1 = .full saved

/-- How many of `fields` are file fields. -/
def fileCount (fields : List MultipartField) : Nat := fields.countP MultipartField.isFile

/-- Every field of `fields` is gone past, the file fields counted on from `count`. -/
def AllPass (dir : SaveDir) : Nat → List MultipartField → Prop
  | _, [] => True
  | count, field :: fields =>
    Passes builder dir count field ∧ AllPass dir (count + if field.isFile then 1 else 0) fields

/-- What the loop adds to `entries` for a field it goes past. -/
def record (dir : SaveDir) (entries : Entries) (field : MultipartField) : Entries :=
  match field.data with
  | .text text => { entries with fields := entries.fields ++ [(field.name, text)] }
  | .file body fs name =>
    match (saveFile builder dir body fs name).1 with
    | .full saved => entries.mutFilesFor field.name (· ++ [saved])
    | _ => entries

/-- The records of `fields`, added in order. -/
def recordAll (dir : SaveDir) (entries : Entries) (fields : List MultipartField) : Entries :=
  fields.foldl (record builder dir) entries

/-- The text fields of `fields`, as `with_entries` records them. -/
def texts (fields : List MultipartField) : List (String × RustString) :=
  fields.filterMap fun field =>
    match field.data with
    | .text text => some (field.name, text)
    | .file .. => none

/-- What the `Full` saves of the file fields named `name` among `fields` gave. -/
def savedFiles (dir : SaveDir) (name : String) (fields : List MultipartField) : List SavedData :=
  fields.filterMap fun field =>
    match field.data with
    | .file body fs file =>
      match (saveFile builder dir body fs file).1 with
      | .full saved => if field.name = name then some saved else none
      | _ => none
    | .text _ => none

/-- What the file saves made for `fields` did at their destinations. -/
def saveDests (dir : SaveDir) (fields : List MultipartField) : List Dest :=
  fields.filterMap fun field =>
    match field.data with
    | .file body fs name => some (saveFile builder dir body fs name).2.2
    | .text _ => none

/-- How the loop stops on what is left of the stream, with its outcome and what the save it
made there, if any, did at its destination. -/
inductive StopsAt (entries : Entries) (count : Nat) :
    List MultipartField → EntriesSaveResult × List Dest → Prop
  | ended (ending : builder.savable.ending = none) : StopsAt entries count [] (.full entries, [])
  | sourceFailed {error : IoError} (failed : builder.savable.ending = some error) :
    StopsAt entries count [] (.partly ⟨entries, none⟩ (.ioError error), [])
  | countLimit {field : MultipartField} {more : List MultipartField} {body : Body} {fs : FileSystem}
    {name : RandomName} (file : field.data = .file body fs name)
    (reached : builder.countLimit.any (· ≤ count) = true) :
    StopsAt entries count (field :: more)
      (.partly ⟨entries, some ⟨field.name, body, none⟩⟩ .countLimit, [])
  | savedPartly {field : MultipartField} {more : List MultipartField} {body body' : Body}
    {fs : FileSystem} {name : RandomName} {saved : SavedData} {reason : PartialReason} {dest : Dest}
    (file : field.data = .file body fs name) (within : builder.countLimit.any (· ≤ count) = false)
    (outcome : saveFile builder entries.saveDir body fs name = (.partly saved reason, body', dest)) :
    StopsAt entries count (field :: more)
      (.partly ⟨entries, some ⟨field.name, body', some saved⟩⟩ reason, [dest])
  | saveFailed {field : MultipartField} {more : List MultipartField} {body body' : Body}
    {fs : FileSystem} {name : RandomName} {error : IoError} {dest : Dest}
    (file : field.data = .file body fs name) (within : builder.countLimit.any (· ≤ count) = false)
    (outcome : saveFile builder entries.saveDir body fs name = (.error error, body', dest)) :
    StopsAt entries count (field :: more)
      (.partly ⟨entries, some ⟨field.name, body', none⟩⟩ (.ioError error), [dest])

@[simp] theorem record_saveDir (dir : SaveDir) (entries : Entries) (field : MultipartField) :
    (record builder dir entries field).saveDir = entries.saveDir := by
  unfold record
  split
  · rfl
  · split <;> rfl

@[simp] theorem recordAll_nil (dir : SaveDir) (entries : Entries) :
    recordAll builder dir entries [] = entries := rfl

@[simp] theorem recordAll_cons (dir : SaveDir) (entries : Entries) (field : MultipartField)
    (fields : List MultipartField) :
    recordAll builder dir entries (field :: fields) = recordAll builder dir (record builder dir entries field) fields :=
  rfl

@[simp] theorem fileCount_nil : fileCount [] = 0 := rfl

@[simp] theorem fileCount_cons (field : MultipartField) (fields : List MultipartField) :
    fileCount (field :: fields) = fileCount fields + if field.isFile then 1 else 0 :=
  List.countP_cons _ _ _

theorem add_fileCount_cons (count : Nat) (field : MultipartField) (fields : List MultipartField) :
    count + fileCount (field :: fields) = (count + if field.isFile then 1 else 0) + fileCount fields := by
  rw [fileCount_cons]; omega

/-- Below `count_limit` K, the loop's check lets a file field through exactly while fewer than K
were saved. -/
theorem countLimit_any_false {limit count : Nat} (limited : builder.countLimit = some limit) :
    builder.countLimit.any (· ≤ count) = false ↔ count < limit := by
  simp [limited]

theorem record_fields (dir : SaveDir) (entries : Entries) (field : MultipartField) :
    (record builder dir entries field).fields = entries.fields ++ texts [field] := by
  unfold record texts
  rcases field with ⟨fieldName, ⟨body, fs, file⟩ | text⟩ <;> dsimp only
  · split <;> simp
  · simp

theorem record_filesFor (dir : SaveDir) (entries : Entries) (field : MultipartField) (name : String) :
    (record builder dir entries field).filesFor name =
      entries.filesFor name ++ savedFiles builder dir name [field] := by
  unfold record savedFiles
  rcases field with ⟨fieldName, ⟨body, fs, file⟩ | text⟩ <;>
    simp only [List.filterMap_cons, List.filterMap_nil]
  · rcases (saveFile builder dir body fs file).1 with saved | _ | _ <;> simp
    split_ifs <;> simp
  · simp [Entries.filesFor]

theorem record_fileTotal {dir : SaveDir} {count : Nat} {field : MultipartField}
    (passes : Passes builder dir count field) (entries : Entries) :
    (record builder dir entries field).fileTotal = entries.fileTotal + if field.isFile then 1 else 0 := by
  unfold record
  unfold Passes at passes
  rcases field with ⟨fieldName, ⟨body, fs, file⟩ | text⟩ <;> dsimp only at passes ⊢
  · obtain ⟨-, saved, full⟩ := passes
    rw [full]
    exact Entries.fileTotal_push entries fieldName saved
  · rfl

theorem record_nonemptyFiles (dir : SaveDir) {entries : Entries} (nonempty : entries.NonemptyFiles)
    (field : MultipartField) : (record builder dir entries field).NonemptyFiles := by
  unfold record
  rcases field with ⟨fieldName, ⟨body, fs, file⟩ | text⟩ <;> dsimp only
  · split
    · exact Entries.nonemptyFiles_push nonempty fieldName _
    · exact nonempty
  · exact nonempty

/-- The records of a prefix the loop goes past: its text fields after those of `entries`, and
under each name the files of its `Full` saves after those `entries` had; nothing removed. -/
theorem recordAll_spec (dir : SaveDir) (entries : Entries) (fields : List MultipartField) :
    (recordAll builder dir entries fields).saveDir = entries.saveDir ∧
      (recordAll builder dir entries fields).fields = entries.fields ++ texts fields ∧
      (∀ name, (recordAll builder dir entries fields).filesFor name =
        entries.filesFor name ++ savedFiles builder dir name fields) ∧
      (entries.NonemptyFiles → (recordAll builder dir entries fields).NonemptyFiles) := by
  induction fields generalizing entries with
  | nil => simp [texts, savedFiles]
  | cons field fields ih =>
    obtain ⟨saveDir, texts', files, nonempty⟩ := ih (record builder dir entries field)
    rw [recordAll_cons]
    refine ⟨by rw [saveDir, record_saveDir], ?_, fun name => ?_, fun before => ?_⟩
    · rw [texts', record_fields, List.append_assoc]
      exact congrArg (entries.fields ++ ·) (List.filterMap_append _ _ _).symm
    · rw [files, record_filesFor, List.append_assoc]
      exact congrArg (entries.filesFor name ++ ·) (List.filterMap_append _ _ _).symm
    · exact nonempty (record_nonemptyFiles builder dir before field)

theorem recordAll_fileTotal {dir : SaveDir} {count : Nat} {fields : List MultipartField}
    (passing : AllPass builder dir count fields) (entries : Entries) :
    (recordAll builder dir entries fields).fileTotal = entries.fileTotal + fileCount fields := by
  induction fields generalizing count entries with
  | nil => rfl
  | cons field fields ih =>
    rw [recordAll_cons, ih passing.2, record_fileTotal builder passing.1, fileCount_cons]
    omega

theorem saveDests_length (dir : SaveDir) (fields : List MultipartField) :
    (saveDests builder dir fields).length = fileCount fields := by
  induction fields with
  | nil => rfl
  | cons field fields ih =>
    rcases field with ⟨name, ⟨body, fs, file⟩ | text⟩ <;>
      simp [saveDests, MultipartField.isFile] at ih ⊢ <;> simp [ih]

/-- Under `count_limit`, the file fields of a prefix the loop goes past stay within the limit. -/
theorem allPass_within {dir : SaveDir} {limit count : Nat} {fields : List MultipartField}
    (limited : builder.countLimit = some limit) (passing : AllPass builder dir count fields)
    (below : count ≤ limit) : count + fileCount fields ≤ limit := by
  induction fields generalizing count with
  | nil => simpa using below
  | cons field fields ih =>
    obtain ⟨passes, passing⟩ := passing
    rw [add_fileCount_cons]
    rcases data : field.data with ⟨body, fs, name⟩ | text
    · simp only [Passes, data, countLimit_any_false builder limited] at passes
      exact ih passing (by simp [MultipartField.isFile, data]; omega)
    · exact ih passing (by simpa [MultipartField.isFile, data] using below)

/-- A prefix whose file saves are all `Full` and whose file fields stay within `count_limit` is
gone past. -/
theorem allPass_of_full {dir : SaveDir} {limit count : Nat} {fields : List MultipartField}
    (limited : builder.countLimit = some limit) (within : count + fileCount fields ≤ limit)
    (full : ∀ field ∈ fields, ∀ body fs name, field.data = .file body fs name →
      ∃ saved, (saveFile builder dir body fs name).1 = .full saved) :
    AllPass builder dir count fields := by
  induction fields generalizing count with
  | nil => trivial
  | cons field fields ih =>
    rw [add_fileCount_cons] at within
    refine ⟨?_, ih within fun field member => full field (List.mem_cons_of_mem _ member)⟩
    rcases data : field.data with ⟨body, fs, name⟩ | text
    · simp only [MultipartField.isFile, data, if_true] at within
      simp only [Passes, data, countLimit_any_false builder limited]
      exact ⟨by omega, full field (List.mem_cons_self _ _) body fs name data⟩
    · simp [Passes, data]

/-! ## One step of the loop -/

section Step

variable {count : Nat} {field : MultipartField} {fields : List MultipartField} {entries : Entries}
  {body : Body} {fs : FileSystem} {name : RandomName}

theorem go_text {text : RustString} (isText : field.data = .text text) :
    withEntries.go builder count (field :: fields) entries =
      withEntries.go builder count fields { entries with fields := entries.fields ++ [(field.name, text)] } := by
  rw [withEntries.go, isText]

theorem go_saved {saved : SavedData} {body' : Body} {dest : Dest} (file : field.data = .file body fs name)
    (within : builder.countLimit.any (· ≤ count) = false)
    (outcome : saveFile builder entries.saveDir body fs name = (.full saved, body', dest)) :
    withEntries.go builder count (field :: fields) entries =
      ((withEntries.go builder (count + 1) fields (entries.mutFilesFor field.name (· ++ [saved]))).1,
        dest :: (withEntries.go builder (count + 1) fields (entries.mutFilesFor field.name (· ++ [saved]))).2) := by
  rw [withEntries.go, file]
  simp only [within, outcome]
  rfl

/-- A file field whose save is `Partial` stops the loop, handed back with what is left of its body
and what was saved of it. -/
theorem go_partly {saved : SavedData} {reason : PartialReason} {body' : Body} {dest : Dest}
    (file : field.data = .file body fs name) (within : builder.countLimit.any (· ≤ count) = false)
    (outcome : saveFile builder entries.saveDir body fs name = (.partly saved reason, body', dest)) :
    withEntries.go builder count (field :: fields) entries =
      (.partly ⟨entries, some ⟨field.name, body', some saved⟩⟩ reason, [dest]) := by
  rw [withEntries.go, file]
  simp only [within, outcome]
  rfl

/-- The loop stops at a field it cannot go past. -/
theorem go_stopped (file : field.data = .file body fs name)
    (stopped : ¬ Passes builder entries.saveDir count field) :
    StopsAt builder entries count (field :: fields) (withEntries.go builder count (field :: fields) entries) := by
  simp only [Passes, file, not_and, not_exists] at stopped
  rw [withEntries.go, file]
  dsimp only
  by_cases reached : builder.countLimit.any (· ≤ count) = true
  · rw [if_pos reached]; exact .countLimit file reached
  · have within := Bool.eq_false_iff.mpr reached
    rw [if_neg reached]
    rcases outcome : saveFile builder entries.saveDir body fs name with ⟨_ | _ | _, body', dest⟩
    · exact absurd (by rw [outcome]) (stopped within _)
    · exact .savedPartly file within outcome
    · exact .saveFailed file within outcome

end Step

theorem saveDests_cons (dir : SaveDir) (field : MultipartField) (fields : List MultipartField) :
    saveDests builder dir (field :: fields) = saveDests builder dir [field] ++ saveDests builder dir fields :=
  List.filterMap_append [field] fields _

section Pass

variable {count : Nat} {field : MultipartField} {fields : List MultipartField} {entries : Entries}

/-- Going past a field: its record is added, and its save, if it is a file, counted. -/
theorem go_pass (passes : Passes builder entries.saveDir count field) :
    withEntries.go builder count (field :: fields) entries =
      ((withEntries.go builder (count + if field.isFile then 1 else 0) fields
          (record builder entries.saveDir entries field)).1,
        saveDests builder entries.saveDir [field] ++ (withEntries.go builder
          (count + if field.isFile then 1 else 0) fields (record builder entries.saveDir entries field)).2) := by
  rcases data : field.data with ⟨body, fs, name⟩ | text
  · simp only [Passes, data] at passes
    obtain ⟨within, saved, full⟩ := passes
    obtain ⟨body', dest, outcome⟩ : ∃ body' dest,
        saveFile builder entries.saveDir body fs name = (.full saved, body', dest) :=
      ⟨_, _, by rw [← full]⟩
    rw [go_saved builder data within outcome]
    simp [record, saveDests, MultipartField.isFile, data, outcome]
  · rw [go_text builder data]
    simp [record, saveDests, MultipartField.isFile, data]

end Pass

/-- The run of the loop over a prefix it goes past: the prefix recorded and its file saves made
in order, then the loop on the rest. -/
theorem go_append {count : Nat} {pre : List MultipartField} (rest : List MultipartField) {entries : Entries}
    (passing : AllPass builder entries.saveDir count pre) :
    withEntries.go builder count (pre ++ rest) entries =
      ((withEntries.go builder (count + fileCount pre) rest (recordAll builder entries.saveDir entries pre)).1,
        saveDests builder entries.saveDir pre ++ (withEntries.go builder (count + fileCount pre) rest
          (recordAll builder entries.saveDir entries pre)).2) := by
  induction pre generalizing count entries with
  | nil => simp [saveDests]
  | cons field pre ih =>
    obtain ⟨passes, passing⟩ := passing
    have run := @ih (count + if field.isFile then 1 else 0) (record builder entries.saveDir entries field)
      (by rwa [record_saveDir])
    simp only [record_saveDir] at run
    rw [List.cons_append, go_pass builder passes, run, add_fileCount_cons, recordAll_cons,
      saveDests_cons builder _ field pre, List.append_assoc]

/-- The whole loop: it goes past a prefix of the stream, recording each field of it, and stops on
what is left. -/
theorem go_stops (count : Nat) (fields : List MultipartField) (entries : Entries) :
    ∃ pre rest, fields = pre ++ rest ∧ AllPass builder entries.saveDir count pre ∧
      ∃ stop, StopsAt builder (recordAll builder entries.saveDir entries pre) (count + fileCount pre)
        rest stop ∧
        withEntries.go builder count fields entries = (stop.1, saveDests builder entries.saveDir pre ++ stop.2) := by
  induction fields generalizing count entries with
  | nil =>
    refine ⟨[], [], rfl, trivial, ?_⟩
    rcases ending : builder.savable.ending with _ | error
    · exact ⟨_, .ended ending, by simp [withEntries.go, ending, saveDests]⟩
    · exact ⟨_, .sourceFailed ending, by simp [withEntries.go, ending, saveDests]⟩
  | cons field fields ih =>
    by_cases passes : Passes builder entries.saveDir count field
    · obtain ⟨pre, rest, split, passing, stop, stops, run⟩ :=
        ih (count + if field.isFile then 1 else 0) (record builder entries.saveDir entries field)
      rw [record_saveDir] at passing stops run
      refine ⟨field :: pre, rest, by rw [split]; rfl, ⟨passes, passing⟩, stop, ?_, ?_⟩
      · rwa [add_fileCount_cons, recordAll_cons]
      · rw [go_pass builder passes, run, saveDests_cons builder _ field pre, List.append_assoc]
    · rcases data : field.data with ⟨body, fs, name⟩ | text
      · exact ⟨[], field :: fields, rfl, trivial, _, go_stopped builder data passes, by simp [saveDests]⟩
      · exact absurd (by simp [Passes, data]) passes

/-- At its stopping point the loop returns the entries it recorded, and saves at most once more,
within the count limit. -/
theorem StopsAt.entries_dests {recorded : Entries} {count : Nat} {rest : List MultipartField}
    {stop : EntriesSaveResult × List Dest} (stops : StopsAt builder recorded count rest stop) :
    stop.1.intoEntries = some recorded ∧
      (∀ partialEntries reason, stop.1 = .partly partialEntries reason →
        partialEntries.entries = recorded ∧
          partialEntries.keepPartial.fileTotal ≤ recorded.fileTotal + stop.2.length) ∧
      ∀ limit, builder.countLimit = some limit → count ≤ limit → count + stop.2.length ≤ limit := by
  cases stops with
  | ended => exact ⟨rfl, fun _ _ same => (by cases same), fun _ _ below => below⟩
  | sourceFailed => exact ⟨rfl, fun _ _ same => by cases same; exact ⟨rfl, le_refl _⟩, fun _ _ below => below⟩
  | countLimit => exact ⟨rfl, fun _ _ same => by cases same; exact ⟨rfl, le_refl _⟩, fun _ _ below => below⟩
  | savedPartly file within outcome =>
    refine ⟨rfl, fun _ _ same => ?_, fun limit limited _ => ?_⟩
    · cases same
      exact ⟨rfl, (Entries.fileTotal_push _ _ _).le⟩
    · exact (countLimit_any_false builder limited).mp within
  | saveFailed file within outcome =>
    refine ⟨rfl, fun _ _ same => ?_, fun limit limited _ => ?_⟩
    · cases same
      exact ⟨rfl, Nat.le_add_right _ _⟩
    · exact (countLimit_any_false builder limited).mp within

theorem keepPartial_nonemptyFiles {partialEntries : PartialEntries}
    (nonempty : partialEntries.entries.NonemptyFiles) : partialEntries.keepPartial.NonemptyFiles := by
  unfold PartialEntries.keepPartial
  split
  · exact Entries.nonemptyFiles_push nonempty _ _
  · exact nonempty

/-- `with_entries` goes past a prefix of the stream, recording each of its fields once: the text
fields after those of `entries`, and under each name the files of the `Full` saves after those
`entries` had, in stream order, nothing removed and the save directory kept. It stops on the rest
at the first of: the end of the stream, a source failure, a file field met at the count limit, a
file field whose save is not `Full`. `keep_partial` then adds the stopped field's partial file,
if any, under that field's name and nothing else, so no name is left with no file. -/
theorem withEntries_records (entries : Entries) :
    ∃ pre rest, builder.savable.fields = pre ++ rest ∧ AllPass builder entries.saveDir 0 pre ∧
      (recordAll builder entries.saveDir entries pre).saveDir = entries.saveDir ∧
      (recordAll builder entries.saveDir entries pre).fields = entries.fields ++ texts pre ∧
      (∀ name, (recordAll builder entries.saveDir entries pre).filesFor name =
        entries.filesFor name ++ savedFiles builder entries.saveDir name pre) ∧
      ∃ stop, StopsAt builder (recordAll builder entries.saveDir entries pre) (fileCount pre) rest stop ∧
        withEntries builder entries = (stop.1, saveDests builder entries.saveDir pre ++ stop.2) ∧
        (entries.NonemptyFiles → ∀ recorded, stop.1.intoEntries = some recorded → recorded.NonemptyFiles) ∧
        ∀ partialEntries reason, stop.1 = .partly partialEntries reason →
          partialEntries.keepPartial.fields = partialEntries.entries.fields ∧
          (∀ name, partialEntries.keepPartial.filesFor name = partialEntries.entries.filesFor name ++
            match partialEntries.partialFile with
            | some ⟨field, _, some saved⟩ => if field = name then [saved] else []
            | _ => []) ∧
          (entries.NonemptyFiles → partialEntries.keepPartial.NonemptyFiles) := by
  obtain ⟨pre, rest, split, passing, stop, stops, run⟩ := go_stops builder 0 builder.savable.fields entries
  obtain ⟨saveDir, texts', files, nonempty⟩ := recordAll_spec builder entries.saveDir entries pre
  obtain ⟨recorded, stopped, -⟩ := stops.entries_dests
  rw [Nat.zero_add] at stops
  refine ⟨pre, rest, split, passing, saveDir, texts', files, stop, stops, run,
    fun before _ same => ?_, fun partialEntries reason same => ?_⟩
  · rw [recorded] at same
    cases same
    exact nonempty before
  · obtain ⟨kept, -, adds⟩ := partialEntries.keepPartial_adds
    refine ⟨kept, adds, fun before => keepPartial_nonemptyFiles ?_⟩
    rw [(stopped partialEntries reason same).1]
    exact nonempty before

/-- Under `count_limit` K, `with_entries` makes at most K file saves and adds at most K files,
the partial one `keep_partial` adds included. When the stream has a (K+1)-th file field and every
file field before it is saved `Full`, the save stops there on `CountLimit`, with the first K file
fields and every text field before it recorded, and that field returned with its body untouched
and no save made of it. -/
theorem withEntries_countLimit (entries : Entries) {limit : Nat}
    (limited : builder.countLimit = some limit) :
    (withEntries builder entries).2.length ≤ limit ∧
      (∀ recorded, (withEntries builder entries).1.intoEntries = some recorded →
        recorded.fileTotal ≤ entries.fileTotal + limit) ∧
      (∀ partialEntries reason, (withEntries builder entries).1 = .partly partialEntries reason →
        partialEntries.keepPartial.fileTotal ≤ entries.fileTotal + limit) ∧
      ∀ pre field more body fs name, builder.savable.fields = pre ++ field :: more →
        field.data = .file body fs name → fileCount pre = limit →
        (∀ file ∈ pre, ∀ body fs name, file.data = .file body fs name →
          ∃ saved, (saveFile builder entries.saveDir body fs name).1 = .full saved) →
        withEntries builder entries =
          (.partly ⟨recordAll builder entries.saveDir entries pre, some ⟨field.name, body, none⟩⟩ .countLimit,
            saveDests builder entries.saveDir pre) := by
  obtain ⟨pre, rest, -, passing, stop, stops, run⟩ := go_stops builder 0 builder.savable.fields entries
  obtain ⟨recorded, stopped, saves⟩ := stops.entries_dests
  have within := allPass_within builder limited passing (Nat.zero_le _)
  have saved := saves limit limited within
  have total := recordAll_fileTotal builder passing entries
  simp only [Nat.zero_add] at within saved
  refine ⟨?_, fun recorded' same => ?_, fun partialEntries reason same => ?_, ?_⟩
  · rw [withEntries, run, List.length_append, saveDests_length]
    exact saved
  · rw [withEntries, run, recorded] at same
    cases same
    omega
  · rw [withEntries, run] at same
    have := (stopped partialEntries reason same).2
    omega
  · intro pre field more body fs name split file counted full
    have passing' := allPass_of_full builder limited (by rw [Nat.zero_add, counted]) full
    rw [withEntries, split, go_append builder _ passing']
    simp [withEntries.go, file, limited, counted]

/-- Under `count_limit` 0 the request's only file field stops the save at once, with no save made.
Under `count_limit` 1 the file field "f" holding "a" is saved `Full`, in memory, and the save
stops on the next file field, "g", handed back untouched with no save made of it. -/
theorem withEntries_countLimit_stops :
    ((SaveBuilder.new FieldSource.a).setCountLimit (some 0)).countLimit = some 0 ∧
      withEntries ((SaveBuilder.new FieldSource.a).setCountLimit (some 0)) (.new (.perm ⟨true, ["uploads"]⟩)) =
        (.partly ⟨.new (.perm ⟨true, ["uploads"]⟩), some ⟨"f", .a, none⟩⟩ .countLimit, []) ∧
      ((SaveBuilder.new FieldSource.ab).setCountLimit (some 1)).countLimit = some 1 ∧
      withEntries ((SaveBuilder.new FieldSource.ab).setCountLimit (some 1)) (.new (.perm ⟨true, ["uploads"]⟩)) =
        (.partly ⟨⟨[], [("f", [.bytes [0x61]])], .perm ⟨true, ["uploads"]⟩⟩, some ⟨"g", .b, none⟩⟩
          .countLimit, [⟨[], none⟩]) := by
  obtain ⟨body, outcome⟩ : ∃ body, saveFile ((SaveBuilder.new FieldSource.ab).setCountLimit (some 1))
      (.perm ⟨true, ["uploads"]⟩) .a .healthy .sample = (.full (.bytes [0x61]), body, ⟨[], none⟩) :=
    ⟨_, withPath_fits ((SaveBuilder.new Body.a).setSizeLimit none) _ _ rfl (by decide) (fun _ absent => by cases absent)⟩
  have stopped := (withEntries_countLimit _ (.new (.perm ⟨true, ["uploads"]⟩)) rfl).2.2.2
    [⟨"f", .file .a .healthy .sample⟩] ⟨"g", .file .b .healthy .sample⟩ [] .b .healthy .sample rfl rfl rfl
    fun first member body fs name file => by
      rw [List.mem_singleton] at member
      subst member
      cases file
      exact ⟨_, congrArg Prod.fst outcome⟩
  refine ⟨rfl, (withEntries_countLimit _ _ rfl).2.2.2 [] ⟨"f", .file .a .healthy .sample⟩ [] .a .healthy .sample
    rfl rfl rfl (fun _ absent => nomatch absent), rfl, ?_⟩
  rw [stopped]
  simp only [recordAll_cons, recordAll_nil, record, saveDests, List.filterMap_cons, List.filterMap_nil, Entries.new,
    outcome]
  rfl

/-- A request of one file field "f" holding `FF FF`, not UTF-8, saved under `memory_threshold`
1: `with_entries` records it as `Bytes` held in memory, where the builder's own single-field save
of that body, through `fork`, spills it to a file. -/
theorem withEntries_default_threshold :
    (withEntries ((SaveBuilder.new (FieldSource.ofFiles [("f", .ff)])).setMemoryThreshold 1) (.new (.perm ⟨true, ["uploads"]⟩))).1 =
        .full ⟨[], [("f", [.bytes [0xFF, 0xFF]])], .perm ⟨true, ["uploads"]⟩⟩ ∧
      ((((SaveBuilder.new (FieldSource.ofFiles [("f", .ff)])).setMemoryThreshold 1).fork Body.ff).withDir
          ⟨true, ["uploads"]⟩ .sample .healthy).1 = .full (.file ⟨true, ["uploads", "abcdefghijkl"]⟩ 2) := by
  constructor
  · obtain ⟨body, outcome⟩ : ∃ body, saveFile ((SaveBuilder.new (FieldSource.ofFiles [("f", .ff)])).setMemoryThreshold 1)
        (.perm ⟨true, ["uploads"]⟩) .ff .healthy .sample = (.full (.bytes [0xFF, 0xFF]), body, ⟨[], none⟩) :=
      ⟨_, withPath_fits ((SaveBuilder.new Body.ff).setSizeLimit none) _ _ rfl (by decide)
        (fun _ absent => by cases absent)⟩
    unfold withEntries
    simp only [withEntries.go, Entries.new]
    rw [outcome]
    rfl
  · obtain ⟨-, rest, quiet⟩ := saveMem_beyond
      (((SaveBuilder.new (FieldSource.ofFiles [("f", .ff)])).setMemoryThreshold 1).fork Body.ff) rfl rfl (by decide)
    unfold SaveBuilder.withDir
    rw [withPath_spills (((SaveBuilder.new (FieldSource.ofFiles [("f", .ff)])).setMemoryThreshold 1).fork Body.ff) _ _ rfl rfl
        (by decide) (.inr ⟨rfl, rfl⟩),
      spill_quiet _ _ _ quiet (fun _ => rfl) rfl Writer.reliable_vec]
    dsimp only
    rw [rest]
    rfl

/-- `with_entries` reads the builder only through the request, `size_limit` and `count_limit`:
its memory threshold, text policy and open options never reach the file saves. -/
theorem withEntries_options_unused (other : SaveBuilder FieldSource) (entries : Entries)
    (source : other.savable = builder.savable) (sized : other.sizeLimit = builder.sizeLimit)
    (counted : other.countLimit = builder.countLimit) :
    withEntries other entries = withEntries builder entries := by
  have save : saveFile other = saveFile builder := by
    funext dir body fs name
    simp only [saveFile, sized]
  suffices loop : ∀ count fields entries,
      withEntries.go other count fields entries = withEntries.go builder count fields entries by
    rw [withEntries, withEntries, source, loop]
  intro count fields
  induction fields generalizing count with
  | nil => intro entries; simp only [withEntries.go, source]
  | cons field fields ih => intro entries; simp only [withEntries.go, counted, save, ih]

/-- The same request under `memory_threshold` 0 and `Ignore` is saved exactly as under the
defaults. -/
theorem withEntries_threshold_unused :
    ((SaveBuilder.new (FieldSource.ofFiles [("f", .ff)])).setMemoryThreshold 0).ignoreText.savable =
        (SaveBuilder.new (FieldSource.ofFiles [("f", .ff)])).savable ∧
      withEntries ((SaveBuilder.new (FieldSource.ofFiles [("f", .ff)])).setMemoryThreshold 0).ignoreText
          (.new (.perm ⟨true, ["uploads"]⟩)) =
        withEntries (SaveBuilder.new (FieldSource.ofFiles [("f", .ff)])) (.new (.perm ⟨true, ["uploads"]⟩)) :=
  ⟨rfl, withEntries_options_unused _ _ _ rfl rfl rfl⟩

end SaveBuilder.Request

end Multipart
