import Multipart.Copy
import Multipart.Utf8

/-! Saving one field: the `SaveBuilder` configuration, the in-memory phase `save_mem`, and
`with_path`, which keeps a field in memory as text or bytes or spills it to a file. -/

namespace Multipart

/-- `TextPolicy`: what to make of a field that may be text. -/
inductive TextPolicy
  | try
  | force
  | ignore
  deriving DecidableEq, Repr

/-- `DEFAULT_MEMORY_THRESHOLD`, 8 MiB. -/
def defaultMemoryThreshold : Nat := 8 * 1024 * 1024

/-- `RANDOM_FILENAME_LEN`. -/
def randomFilenameLen : Nat := 12

/-- `std::fs::OpenOptions`, by its flags. -/
structure OpenOptions where
  read : Bool
  write : Bool
  append : Bool
  truncate : Bool
  create : Bool
  createNew : Bool
  deriving DecidableEq, Repr

/-- `OpenOptions::new()`: every flag off. -/
def OpenOptions.new : OpenOptions := ⟨false, false, false, false, false, false⟩

/-- A filesystem path as its text reads: whether it starts at the root, and the pieces between its
`/`s, in order. -/
structure Path where
  absolute : Bool
  components : List String
  deriving DecidableEq, Repr

namespace Path

/-- Whether `Path::components` keeps a piece: an empty one (from a doubled or trailing `/`) and a
`.` are dropped. -/
def keeps (piece : String) : Bool := piece != "" && piece != "."

/-- `Path::components` after the root: the pieces it keeps, after a `.` that starts a relative
path. Two paths with the same parts are the same path to `std`. -/
def parts (path : Path) : List String :=
  (if !path.absolute && path.components.head? == some "." then ["."] else []) ++
    path.components.filter keeps

/-- The path a text names: absolute when it starts with `/`, its pieces split at each `/`. -/
def ofText (text : String) : Path :=
  ⟨text.data.head? == some '/', (text.data.splitOn '/').map String.mk⟩

/-- `Path::join`, that is `PathBuf::push` on a copy: an absolute `name` replaces the path, a
relative one is added after it. -/
def join (path : Path) (name : String) : Path :=
  if (ofText name).absolute then ofText name
  else { path with components := path.components ++ (ofText name).components }

/-- `Path::parent`: the path without its last component; none for a root or an empty path. -/
def parent (path : Path) : Option Path :=
  if path.parts = [] then none else some { path with components := path.parts.dropLast }

/-- `Path::file_name`: the last component, none for a root, an empty path, or one ending in
`..` (or being `.`). -/
def fileName (path : Path) : Option String :=
  path.parts.getLast?.filter fun last => last != ".." && last != "."

/-- `PathBuf::set_file_name`: with a file name, `pop` it (the path becomes its parent) and push
`name`; without one, push `name`. -/
def setFileName (path : Path) (name : String) : Path :=
  match path.fileName, path.parent with
  | some _, some parent => parent.join name
  | _, _ => path.join name

end Path

/-- `rand_filename()`: a fresh alphanumeric name of `RANDOM_FILENAME_LEN` characters. -/
structure RandomName where
  name : String
  length : name.length = randomFilenameLen
  alphanumeric : name.data.all Char.isAlphanum = true

/-- A name `rand_filename` may draw. -/
def RandomName.sample : RandomName := ⟨"abcdefghijkl", by decide, by decide⟩

/-- A call the save path makes on the filesystem. -/
inductive FsCall
  | createDirAll (dir : Path)
  | openFile (options : OpenOptions) (path : Path)
  deriving DecidableEq, Repr

/-- How the filesystem answers one save: directory creation, opening the destination, and the
answers of the opened file to the writes made through it. What the file held before it was
opened is not modelled: a save is described by the bytes it writes. -/
structure FileSystem where
  createDirAll : Path → Except IoError Unit
  openFile : OpenOptions → Path → Except IoError Unit
  writes : List Write

/-- A filesystem on which every call succeeds and the opened file takes every write whole. -/
def FileSystem.healthy : FileSystem := ⟨fun _ => .ok (), fun _ _ => .ok (), []⟩

/-- `SavedData`: where a saved field's content lives. -/
inductive SavedData
  | text (text : RustString)
  | bytes (bytes : List UInt8)
  | file (path : Path) (size : Nat)
  deriving DecidableEq

namespace SavedData

/-- `SavedData::size`: the byte length (`String::len` for text). -/
def size : SavedData → Nat
  | .text content => content.bytes.length
  | .bytes content => content.length
  | .file _ recorded => recorded

/-- `SavedData::add_size`: grow a file's recorded size. -/
def addSize (data : SavedData) (add : Nat) : SavedData :=
  match data with
  | .file path recorded => .file path (recorded + add)
  | other => other

end SavedData

/-- `FieldSaveResult`. -/
abbrev FieldSaveResult := SaveResult SavedData SavedData

/-- What a single-field save did at its destination: its filesystem calls, in order, and the
file it opened, if it got that far, with the handle it wrote through: `written` holds the bytes
the save wrote to the file, in order. -/
structure Dest where
  calls : List FsCall
  file : Option (Path × Writer)

/-- The module's `create_dir_all`: create the parent directories of `path`; a path with no
parent (a root) only logs a warning. -/
def createDirAll (fs : FileSystem) (path : Path) : Except IoError Unit × List FsCall :=
  match path.parent with
  | some parent => (fs.createDirAll parent, [.createDirAll parent])
  | none => (.ok (), [])

/-- `SaveBuilder<S>`: what to save, and how. -/
structure SaveBuilder (S : Type) where
  savable : S
  openOpts : OpenOptions
  sizeLimit : Option Nat
  countLimit : Option Nat
  memoryThreshold : Nat
  textPolicy : TextPolicy

namespace SaveBuilder

variable {S M : Type}

/-- `SaveBuilder::new`: write to new files only, no limits, the default threshold, `Try`. -/
def new (savable : S) : SaveBuilder S :=
  ⟨savable, { OpenOptions.new with write := true, createNew := true }, none, none,
    defaultMemoryThreshold, .try⟩

/-- `SaveBuilder::size_limit`. -/
def setSizeLimit (limit : Option Nat) (builder : SaveBuilder S) : SaveBuilder S :=
  { builder with sizeLimit := limit }

/-- `SaveBuilder::mod_open_opts`: the `write` flag is set again afterwards. -/
def modOpenOpts (modify : OpenOptions → OpenOptions) (builder : SaveBuilder S) : SaveBuilder S :=
  { builder with openOpts := { modify builder.openOpts with write := true } }

/-- `SaveBuilder::memory_threshold`. -/
def setMemoryThreshold (memoryThreshold : Nat) (builder : SaveBuilder S) : SaveBuilder S :=
  { builder with memoryThreshold }

def tryText (builder : SaveBuilder S) : SaveBuilder S := { builder with textPolicy := .try }

def forceText (builder : SaveBuilder S) : SaveBuilder S := { builder with textPolicy := .force }

def ignoreText (builder : SaveBuilder S) : SaveBuilder S := { builder with textPolicy := .ignore }

/-- `SaveBuilder::fork`: the same configuration over another savable. -/
def fork (builder : SaveBuilder S) (savable : M) : SaveBuilder M :=
  ⟨savable, builder.openOpts, builder.sizeLimit, builder.countLimit, builder.memoryThreshold,
    builder.textPolicy⟩

/-- `SaveBuilder::count_limit`. -/
def setCountLimit (limit : Option Nat) (builder : SaveBuilder S) : SaveBuilder S :=
  { builder with countLimit := limit }

/-- `write_to`: copy the field to `dest`, cut at `size_limit` if one is set. -/
def writeTo (builder : SaveBuilder Body) (dest : Writer) : SaveResult Nat Nat × Body × Writer :=
  match builder.sizeLimit with
  | some limit => tryCopyLimited builder.savable dest limit
  | none => tryCopyBuf builder.savable dest

/-- `save_mem`: buffer the field in memory, up to `size_limit` when that is below
`memory_threshold` and up to `memory_threshold` otherwise; `true` marks a field read to its end.
In the first branch the source's `self.write_to(&mut bytes).map(move |_| bytes)` yields the
bare buffer on `Full`, which then holds the whole field. -/
def saveMem (builder : SaveBuilder Body) : SaveResult (List UInt8 × Bool) (List UInt8) × Body :=
  if builder.sizeLimit.any (· < builder.memoryThreshold) then
    match builder.writeTo Writer.vec with
    | (.full _, body, bytes) => (.full (bytes.written, true), body)
    | (.partly _ reason, body, bytes) => (.partly bytes.written reason, body)
    | (.error error, body, _) => (.error error, body)
  else
    match tryCopyLimited builder.savable Writer.vec builder.memoryThreshold with
    | (.full _, body, bytes) => (.full (bytes.written, true), body)
    | (.partly _ .sizeLimit, body, bytes) => (.full (bytes.written, false), body)
    | (.partly _ other, body, bytes) => (.partly bytes.written other, body)
    | (.error error, body, _) => (.error error, body)

/-- The end of `with_path` once a field is bound for disk: create the parent directories,
open the file, write the buffered bytes to it (the source's `try_write_all(&bytes)`, whose
writer is the file just opened), then copy the rest of the field after them. The handle starts
with nothing written through it, whatever the open options and whatever the file held. -/
def spill (builder : SaveBuilder Body) (bytes : List UInt8) (path : Path) (fs : FileSystem) :
    FieldSaveResult × Body × Dest :=
  match createDirAll fs path with
  | (.error error, calls) => (.error error, builder.savable, ⟨calls, none⟩)
  | (.ok (), calls) =>
    let calls := calls ++ [.openFile builder.openOpts path]
    match fs.openFile builder.openOpts path with
    | .error error => (.error error, builder.savable, ⟨calls, none⟩)
    | .ok () =>
      match tryWriteAll bytes ⟨fs.writes, []⟩ with
      | (.full size, file) =>
        match builder.writeTo file with
        | (written, body, file) =>
          (written.map ((SavedData.file path size).addSize ·), body, ⟨calls, some (path, file)⟩)
      | (other, file) => (other.map (SavedData.file path ·), builder.savable, ⟨calls, some (path, file)⟩)

/-- `with_path`: keep the field in memory if it ends within the buffer, as text when the policy
asks for it, and otherwise spill it to a file at `path`. -/
def withPath (builder : SaveBuilder Body) (path : Path) (fs : FileSystem) :
    FieldSaveResult × Body × Dest :=
  match builder.saveMem with
  | (.full (bytes, true), body) => (.full (.bytes bytes), body, ⟨[], none⟩)
  | (.full (bytes, false), body) =>
    match builder.textPolicy with
    | .try =>
      match fromUtf8 bytes with
      | some text => (.full (.text text), body, ⟨[], none⟩)
      | none => { builder with savable := body }.spill bytes path fs
    | .force =>
      match fromUtf8 bytes with
      | some text => (.full (.text text), body, ⟨[], none⟩)
      | none => (.error ⟨.invalidData⟩, body, ⟨[], none⟩)
    | .ignore => { builder with savable := body }.spill bytes path fs
  | (.partly bytes reason, body) => (.partly (.bytes bytes) reason, body, ⟨[], none⟩)
  | (.error error, body) => (.error error, body, ⟨[], none⟩)

/-- `with_dir`: a fresh random name in `dir`. -/
def withDir (builder : SaveBuilder Body) (dir : Path) (name : RandomName) (fs : FileSystem) :
    FieldSaveResult × Body × Dest :=
  builder.withPath (dir.join name.name) fs

/-- `temp`: a fresh random name in the OS temporary directory `tempDir`. -/
def temp (builder : SaveBuilder Body) (tempDir : Path) (name : RandomName) (fs : FileSystem) :
    FieldSaveResult × Body × Dest :=
  builder.withPath (tempDir.join name.name) fs

/-- `with_filename`: the OS temporary directory `tempDir` with its file name set to `filename`. -/
def withFilename (builder : SaveBuilder Body) (tempDir : Path) (filename : String) (fs : FileSystem) :
    FieldSaveResult × Body × Dest :=
  builder.withPath (tempDir.setFileName filename) fs

end SaveBuilder

end Multipart
