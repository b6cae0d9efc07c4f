import Multipart.Field

/-! Saving a whole request: the `Entries` a save fills, its `SaveDir`, and `with_entries`, which
saves the fields of a request one after another, each file field through the single-field save. -/

namespace Multipart

/-- `SaveDir`: a temporary directory, deleted when dropped, or a permanent one. -/
inductive SaveDir
  | temp (path : Path)
  | perm (path : Path)
  deriving DecidableEq, Repr

namespace SaveDir

/-- `SaveDir::as_path`. -/
def asPath : SaveDir → Path
  | .temp path | .perm path => path

/-- `SaveDir::is_temporary`. -/
def isTemporary : SaveDir → Bool
  | .temp _ => true
  | .perm _ => false

/-- `SaveDir::into_path`: the directory's path, no longer deleted on drop. -/
def intoPath : SaveDir → Path
  | .temp path | .perm path => path

/-- `SaveDir::keep`: a temporary directory becomes permanent. -/
def keep : SaveDir → SaveDir
  | .temp path => .perm path
  | dir => dir

@[simp] theorem asPath_keep (dir : SaveDir) : dir.keep.asPath = dir.asPath := by
  cases dir <;> rfl

@[simp] theorem isTemporary_keep (dir : SaveDir) : dir.keep.isTemporary = false := by
  cases dir <;> rfl

end SaveDir

/-- The files saved under one field name, in the list `Entries` keeps them in. -/
def filesIn (name : String) : List (String × List SavedData) → List SavedData
  | [] => []
  | (field, files) :: rest => if field = name then files else filesIn name rest

/-- `files.entry(field).or_insert_with(Vec::new)`, then `update` on that vector. -/
def updateFiles (field : String) (update : List SavedData → List SavedData) :
    List (String × List SavedData) → List (String × List SavedData)
  | [] => [(field, update [])]
  | (name, files) :: rest =>
    if name = field then (name, update files) :: rest else (name, files) :: updateFiles field update rest

theorem filesIn_updateFiles (name field : String) (update : List SavedData → List SavedData)
    (files : List (String × List SavedData)) :
    filesIn name (updateFiles field update files) =
      if field = name then update (filesIn name files) else filesIn name files := by
  induction files with
  | nil => by_cases same : field = name <;> simp [updateFiles, filesIn, same]
  | cons entry rest ih =>
    obtain ⟨key, files⟩ := entry
    by_cases here : key = field
    · subst here; by_cases same : key = name <;> simp [updateFiles, filesIn, same]
    · by_cases same : key = name
      · subst same; simp [updateFiles, filesIn, here, Ne.symm here]
      · simp [updateFiles, filesIn, here, same, ih]

/-- `Entries`: the text fields in arrival order, the saved files by field name, and the
directory the files were saved in. -/
structure Entries where
  fields : List (String × RustString)
  files : List (String × List SavedData)
  saveDir : SaveDir

namespace Entries

/-- `Entries::new`. -/
def new (saveDir : SaveDir) : Entries := ⟨[], [], saveDir⟩

/-- `Entries::is_empty`. -/
def isEmpty (entries : Entries) : Bool := entries.fields.isEmpty && entries.files.isEmpty

/-- `Entries::mut_files_for`, with what the caller then does to the vector it returns. -/
def mutFilesFor (entries : Entries) (field : String) (update : List SavedData → List SavedData) :
    Entries :=
  { entries with files := updateFiles field update entries.files }

/-- The files saved under `name`. -/
def filesFor (entries : Entries) (name : String) : List SavedData := filesIn name entries.files

@[simp] theorem filesFor_mutFilesFor (entries : Entries) (field name : String)
    (update : List SavedData → List SavedData) :
    (entries.mutFilesFor field update).filesFor name =
      if field = name then update (entries.filesFor name) else entries.filesFor name :=
  filesIn_updateFiles name field update entries.files

@[simp] theorem mutFilesFor_fields (entries : Entries) (field : String)
    (update : List SavedData → List SavedData) :
    (entries.mutFilesFor field update).fields = entries.fields := rfl

@[simp] theorem mutFilesFor_saveDir (entries : Entries) (field : String)
    (update : List SavedData → List SavedData) :
    (entries.mutFilesFor field update).saveDir = entries.saveDir := rfl

end Entries

/-- `MultipartData`: a file field's body, or a text field's text. A file comes with how the
filesystem answers its save and the fresh name `rand_filename` draws for it. -/
inductive MultipartData
  | file (body : Body) (fs : FileSystem) (name : RandomName)
  | text (text : RustString)

/-- `MultipartField`: a field's name and data. -/
structure MultipartField where
  name : String
  data : MultipartData

def MultipartField.isFile (field : MultipartField) : Bool :=
  match field.data with
  | .file .. => true
  | .text _ => false

/-- The field source behind `ReadEntry`: the fields still to come, then `End`, or the failure
that stops the stream. -/
structure FieldSource where
  fields : List MultipartField
  ending : Option IoError

/-- `PartialSavedField`: the field being saved when the save stopped, what is left of its body,
and what was saved of it, if the save got that far. -/
structure PartialSavedField where
  fieldName : String
  source : Body
  dest : Option SavedData

/-- `PartialEntries`: the entries saved, and the field in progress, none if the save stopped
between fields. -/
structure PartialEntries where
  entries : Entries
  partialFile : Option PartialSavedField

/-- `impl Into<Entries> for PartialEntries`: the field in progress is dropped. -/
instance : Into PartialEntries Entries := ⟨PartialEntries.entries⟩

/-- `PartialEntries::keep_partial`: add what was saved of the field in progress under its name. -/
def PartialEntries.keepPartial (partialEntries : PartialEntries) : Entries :=
  match partialEntries.partialFile with
  | some ⟨fieldName, _, some saved⟩ => partialEntries.entries.mutFilesFor fieldName (· ++ [saved])
  | _ => partialEntries.entries

/-- `EntriesSaveResult`. -/
abbrev EntriesSaveResult := SaveResult Entries PartialEntries

/-- `EntriesSaveResult::into_entries`. -/
def SaveResult.intoEntries : EntriesSaveResult → Option Entries
  | .full entries | .partly ⟨entries, _⟩ _ => some entries
  | .error _ => none

namespace SaveBuilder.Request

/-- The single-field save `with_entries` makes of a file field:
`file.save().size_limit(self.size_limit).with_dir(&entries.save_dir)`. -/
def saveFile (builder : SaveBuilder FieldSource) (dir : SaveDir) (body : Body) (fs : FileSystem)
    (name : RandomName) : FieldSaveResult × Body × Dest :=
  ((SaveBuilder.new body).setSizeLimit builder.sizeLimit).withDir dir.asPath name fs

/-- `with_entries`: save the fields in order until the stream ends, the source fails, the count
limit stops a file field or a file field's save is not `Full`; with what each file save did at
its destination. -/
def withEntries (builder : SaveBuilder FieldSource) (entries : Entries) : EntriesSaveResult × List Dest :=
  go 0 builder.savable.fields entries
where
  /-- The loop, with `count` file fields saved so far. -/
  go (count : Nat) : List MultipartField → Entries → EntriesSaveResult × List Dest
    | [], entries =>
      match builder.savable.ending with
      | none => (.full entries, [])
      | some error => (.partly ⟨entries, none⟩ (.ioError error), [])
    | field :: fields, entries =>
      match field.data with
      | .text text => go count fields { entries with fields := entries.fields ++ [(field.name, text)] }
      | .file body fs name =>
        if builder.countLimit.any (· ≤ count) then
          (.partly ⟨entries, some ⟨field.name, body, none⟩⟩ .countLimit, [])
        else
          match saveFile builder entries.saveDir body fs name with
          | (.full saved, _, dest) =>
            let rest := go (count + 1) fields (entries.mutFilesFor field.name (· ++ [saved]))
            (rest.1, dest :: rest.2)
          | (.partly saved reason, body, dest) =>
            (.partly ⟨entries, some ⟨field.name, body, some saved⟩⟩ reason, [dest])
          | (.error error, body, dest) =>
            (.partly ⟨entries, some ⟨field.name, body, none⟩⟩ (.ioError error), [dest])

/-- `with_temp_dir`: save into the temporary directory `tempDir`. -/
def withTempDir (builder : SaveBuilder FieldSource) (tempDir : Path) : EntriesSaveResult × List Dest :=
  withEntries builder (Entries.new (.temp tempDir))

/-- `temp_with_prefix`, by what `TempDir::new` answered: the directory it made, or its failure. -/
def tempWithPrefix (builder : SaveBuilder FieldSource) (made : Except IoError Path) :
    EntriesSaveResult × List Dest :=
  match made with
  | .ok tempDir => withTempDir builder tempDir
  | .error error => (.error error, [])

/-- `temp`: `temp_with_prefix("multipart-rs")`. -/
def temp (builder : SaveBuilder FieldSource) (made : Except IoError Path) : EntriesSaveResult × List Dest :=
  tempWithPrefix builder made

/-- `with_dir` of a whole request: the module's `create_dir_all` on `dir`, then a save into `dir`
as a permanent directory; with the directory calls made first. -/
def withDir (builder : SaveBuilder FieldSource) (dir : Path) (fs : FileSystem) :
    (EntriesSaveResult × List Dest) × List FsCall :=
  match createDirAll fs dir with
  | (.error error, calls) => ((.error error, []), calls)
  | (.ok (), calls) => (withEntries builder (Entries.new (.perm dir)), calls)

end SaveBuilder.Request

end Multipart
