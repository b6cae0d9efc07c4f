import Multipart.FieldSpec
import Multipart.EntriesSpec

/-! Where the entry points put a field and which directories they make. The single-field
`temp`, `with_dir` and `with_filename` choose a path and hand on to `with_path`; a file save
asks `create_dir_all` for the parent of its path, and opens the file only when that succeeds.
`with_filename(f)` puts `f` inside the temporary directory only when that directory has no file
name; otherwise `set_file_name` puts `f` beside it. The whole-request `with_dir(d)` asks for the
parent of `d`, so `d` itself is made only by the saves of file fields, each exactly when it goes
on to open its file. -/

namespace Multipart

namespace Path

/-- A name that is one relative component: not empty, not `.`, and without a `/`. -/
def IsComponent (name : String) : Prop := keeps name = true ∧ '/' ∉ name.data

instance (name : String) : Decidable (IsComponent name) := inferInstanceAs (Decidable (_ ∧ _))

theorem ne_dot_of_keeps {piece : String} (kept : keeps piece = true) : piece ≠ "." := by
  rintro rfl
  exact absurd kept (by decide)

/-- A prefix of a path's parts is already in the form `Path::components` gives: its parts are
itself. -/
theorem parts_of_prefix (path : Path) {pieces : List String} (prefix_ : pieces <+: path.parts) :
    parts { path with components := pieces } = pieces := by
  have kept : ∀ {rest : List String}, rest <+: path.components.filter keeps → rest.filter keeps = rest :=
    fun sub => List.filter_eq_self.mpr fun _ member => (List.mem_filter.mp (sub.subset member)).2
  unfold parts at prefix_ ⊢
  split at prefix_
  · rename_i leading
    simp only [Bool.and_eq_true, Bool.not_eq_true', beq_iff_eq] at leading
    rcases pieces with _ | ⟨first, rest⟩
    · simp
    · obtain ⟨rfl, tail⟩ := List.cons_prefix_cons.mp prefix_
      simp [leading.1, keeps, kept tail]
  · rw [List.nil_append] at prefix_
    have all := kept prefix_
    rcases pieces with _ | ⟨first, rest⟩
    · simp
    · have first_kept := (List.mem_filter.mp (prefix_.subset (List.mem_cons_self _ _))).2
      simp [ne_dot_of_keeps first_kept, all]

theorem parts_parts (path : Path) : parts { path with components := path.parts } = path.parts :=
  path.parts_of_prefix (List.prefix_refl _)

/-- A name that is one relative component is the path of that one component. -/
theorem ofText_component {name : String} (component : IsComponent name) : ofText name = ⟨false, [name]⟩ := by
  obtain ⟨-, noSlash⟩ := component
  have single : name.data.splitOn '/' = [name.data] :=
    List.splitOnP_eq_single _ _ fun c member slash => noSlash (by rwa [beq_iff_eq.mp slash] at member)
  have relative : (name.data.head? == some '/') = false := by
    rcases first : name.data with _ | ⟨c, rest⟩
    · rfl
    · rw [first] at noSlash
      simpa using fun same : c = '/' => noSlash (same ▸ List.mem_cons_self _ _)
  simp only [ofText, single, relative, List.map_cons, List.map_nil]

theorem join_component (path : Path) {name : String} (component : IsComponent name) :
    path.join name = { path with components := path.components ++ [name] } := by
  simp [join, ofText_component component]

theorem parts_join (path : Path) {name : String} (component : IsComponent name) :
    (path.join name).parts = path.parts ++ [name] := by
  have named : [name].filter keeps = [name] := by simp [component.1]
  have head : ((path.components ++ [name]).head? == some ".") = (path.components.head? == some ".") := by
    rcases path.components with _ | ⟨first, rest⟩ <;> simp [ne_dot_of_keeps component.1]
  rw [join_component path component]
  simp only [parts, List.filter_append, named, head, List.append_assoc]

/-- The parent of a path with one more component is the path, in the form `Path::components` gives
it. -/
theorem parent_join (dir : Path) {name : String} (component : IsComponent name) :
    (dir.join name).parent = some { dir with components := dir.parts } := by
  have joined := parts_join dir component
  rw [join_component dir component] at joined ⊢
  simp [parent, joined]

/-- For a name that is one relative component, `set_file_name` pushes the name exactly when the
path has no file name; otherwise it replaces the last component, and the two paths differ to
`std` as well, having different parts. -/
theorem setFileName_eq_join_iff (path : Path) {name : String} (component : IsComponent name) :
    path.setFileName name = path.join name ↔ path.fileName = none := by
  unfold setFileName
  cases named : path.fileName with
  | none => simp
  | some last =>
    have nonempty : path.parts ≠ [] := fun empty => by simp [fileName, empty] at named
    have popped : path.parent = some { path with components := path.parts.dropLast } := by
      simp [parent, nonempty]
    simp only [popped, reduceCtorEq, iff_false]
    intro same
    have lengths := congrArg (fun path : Path => path.parts.length) same
    simp only [parts_join _ component, parts_of_prefix path (List.dropLast_prefix _), List.length_append,
      List.length_dropLast, List.length_singleton] at lengths
    have := List.length_pos.mpr nonempty
    omega

end Path

/-- A name `rand_filename` draws is one relative component. -/
theorem RandomName.isComponent (name : RandomName) : Path.IsComponent name.name := by
  have long := name.length
  refine ⟨?_, fun slash => absurd (List.all_eq_true.mp name.alphanumeric '/' slash) (by decide)⟩
  simp only [Path.keeps, Bool.and_eq_true, bne_iff_ne, ne_eq]
  constructor <;> intro same <;> rw [same] at long <;> exact absurd long (by decide)

/-- Whether a call asks for `path` to exist: `fs::create_dir_all(dir)` asks for `dir` and for each
of its ancestors. -/
def FsCall.asksFor : FsCall → Path → Bool
  | .createDirAll dir, path => path.absolute == dir.absolute && path.parts.isPrefixOf dir.parts
  | .openFile .., _ => false

/-- Whether a call, answered by `fs`, left `path` existing: a `create_dir_all` that asks for it and
succeeded. -/
def FsCall.made (fs : FileSystem) : FsCall → Path → Bool
  | .createDirAll dir, path => (FsCall.createDirAll dir).asksFor path && (fs.createDirAll dir).toBool
  | .openFile .., _ => false

theorem FsCall.asksFor_parts (dir : Path) :
    (FsCall.createDirAll { dir with components := dir.parts }).asksFor dir = true := by
  simp [asksFor, dir.parts_parts, List.isPrefixOf_iff_prefix]

theorem FsCall.asksFor_parent {dir parent : Path} (parented : dir.parent = some parent) :
    (FsCall.createDirAll parent).asksFor dir = false := by
  unfold Path.parent at parented
  split at parented
  · cases parented
  · rename_i nonempty
    cases parented
    have positive := List.length_pos.mpr nonempty
    simp only [asksFor, beq_self_eq_true, Bool.true_and, dir.parts_of_prefix (List.dropLast_prefix _)]
    rw [Bool.eq_false_iff]
    intro prefix_
    have := (List.isPrefixOf_iff_prefix.mp prefix_).length_le
    simp only [List.length_dropLast] at this
    omega

/-- The module's `create_dir_all` never asks for the path it is given, only for its parent. -/
theorem createDirAll_asksFor (fs : FileSystem) (path : Path) :
    (createDirAll fs path).2.any (FsCall.asksFor · path) = false := by
  unfold createDirAll
  split
  · rename_i parented; simp [FsCall.asksFor_parent parented]
  · rfl

theorem createDirAll_not_opens (fs : FileSystem) (path : Path) {options : OpenOptions} {target : Path} :
    .openFile options target ∉ (createDirAll fs path).2 := by
  unfold createDirAll
  split <;> simp

namespace SaveBuilder

variable (builder : SaveBuilder Body)

/-- A spill asks `create_dir_all` for the parent of its path, then opens the file exactly when
that succeeded. -/
theorem spill_calls (bytes : List UInt8) (path : Path) (fs : FileSystem) :
    (builder.spill bytes path fs).2.2.calls = (createDirAll fs path).2 ++
      if (createDirAll fs path).1.toBool then [.openFile builder.openOpts path] else [] := by
  unfold spill
  rcases createDirAll fs path with ⟨_ | _, calls⟩ <;> dsimp only
  · simp [Except.toBool]
  rcases fs.openFile builder.openOpts path with _ | _ <;> dsimp only
  · rfl
  rcases tryWriteAll bytes ⟨fs.writes, []⟩ with ⟨_ | _ | _, file⟩ <;> rfl

/-- A single-field save keeps off the filesystem, or asks `create_dir_all` for the parent of its
path and then, exactly when that succeeds, opens the file. -/
theorem withPath_calls (path : Path) (fs : FileSystem) :
    (builder.withPath path fs).2.2.calls = [] ∨
      (builder.withPath path fs).2.2.calls = (createDirAll fs path).2 ++
        if (createDirAll fs path).1.toBool then [.openFile builder.openOpts path] else [] := by
  unfold withPath
  rcases builder.saveMem with ⟨⟨bytes, _ | _⟩ | _ | _, body⟩ <;> dsimp only
  · rcases builder.textPolicy <;> dsimp only
    · rcases fromUtf8 bytes with _ | text <;> dsimp only
      · exact .inr (spill_calls _ bytes path fs)
      · exact .inl rfl
    · rcases fromUtf8 bytes with _ | text <;> exact .inl rfl
    · exact .inr (spill_calls _ bytes path fs)
  all_goals exact .inl rfl

/-- `with_path` opens at most the path it was given, with the builder's open options. -/
theorem withPath_opens (path : Path) (fs : FileSystem) {options : OpenOptions} {target : Path}
    (opened : .openFile options target ∈ (builder.withPath path fs).2.2.calls) :
    options = builder.openOpts ∧ target = path := by
  rcases builder.withPath_calls path fs with same | same <;> rw [same] at opened
  · cases opened
  · rcases List.mem_append.mp opened with made | last
    · exact absurd made (createDirAll_not_opens fs path)
    · split at last <;> simp_all

/-- A field the save sends to disk is opened at its path when the filesystem lets it: a quiet
field longer than the buffer, under `Ignore`, or under `Try` with a buffer that does not decode.
The save then holds the file it opened. -/
theorem withPath_opens_spilled (path : Path) (fs : FileSystem)
    (quiet : builder.savable.failures = 0) (notSmall : builder.sizeLimit.any (· < builder.memoryThreshold) = false)
    (longer : builder.memoryThreshold < builder.savable.rest.length)
    (undecoded : builder.textPolicy = .ignore ∨
      builder.textPolicy = .try ∧ fromUtf8 (builder.savable.rest.take builder.memoryThreshold) = none)
    (created : ∀ dir, fs.createDirAll dir = .ok ()) (opened : fs.openFile builder.openOpts path = .ok ()) :
    .openFile builder.openOpts path ∈ (builder.withPath path fs).2.2.calls ∧
      ∃ file, (builder.withPath path fs).2.2.file = some (path, file) := by
  obtain ⟨calls, made⟩ : ∃ calls, createDirAll fs path = (.ok (), calls) :=
    ⟨_, Prod.ext (createDirAll_ok created path) rfl⟩
  rw [builder.withPath_spills path fs quiet notSmall longer undecoded]
  unfold spill
  rcases tryWriteAll _ ⟨fs.writes, []⟩ with ⟨_ | _ | _, file⟩ <;> simp [made, opened]

end SaveBuilder

namespace SaveBuilder.Request

variable (builder : SaveBuilder FieldSource)

/-- The directory call of a file save into `dir`: `create_dir_all` on `dir`, in the form
`Path::components` gives it. -/
theorem createDirAll_saveFile (fs : FileSystem) (dir : SaveDir) (name : RandomName) :
    createDirAll fs (dir.asPath.join name.name) =
      (fs.createDirAll { dir.asPath with components := dir.asPath.parts },
        [.createDirAll { dir.asPath with components := dir.asPath.parts }]) := by
  simp [createDirAll, dir.asPath.parent_join name.isComponent]

/-- A file save into `dir` asks for `dir` exactly when it touches the filesystem, and made `dir`
(its `create_dir_all` succeeded) exactly when it went on to open its file. -/
theorem saveFile_makes (dir : SaveDir) (body : Body) (fs : FileSystem) (name : RandomName) :
    (saveFile builder dir body fs name).2.2.calls.any (FsCall.asksFor · dir.asPath) =
        !(saveFile builder dir body fs name).2.2.calls.isEmpty ∧
      ((saveFile builder dir body fs name).2.2.calls.any (FsCall.made fs · dir.asPath) = true ↔
        .openFile { OpenOptions.new with write := true, createNew := true } (dir.asPath.join name.name) ∈
          (saveFile builder dir body fs name).2.2.calls) := by
  unfold saveFile SaveBuilder.withDir
  rcases SaveBuilder.withPath_calls _ (dir.asPath.join name.name) fs with none | touched
  · rw [none]; simp
  rw [touched, createDirAll_saveFile]
  have asked := FsCall.asksFor_parts dir.asPath
  rcases answer : fs.createDirAll { dir.asPath with components := dir.asPath.parts } with _ | _ <;>
    simp [Except.toBool, FsCall.made, asked, answer, SaveBuilder.setSizeLimit, SaveBuilder.new]

/-- Every save `with_entries` makes is a file save into the entries' directory. -/
theorem withEntries_dests (entries : Entries) {dest : Dest} (member : dest ∈ (withEntries builder entries).2) :
    ∃ body fs name, (saveFile builder entries.saveDir body fs name).2.2 = dest := by
  obtain ⟨pre, rest, -, -, stop, stops, run⟩ := go_stops builder 0 builder.savable.fields entries
  have saveDir := (recordAll_spec builder entries.saveDir entries pre).1
  rw [withEntries, run] at member
  rcases List.mem_append.mp member with saved | stopped
  · obtain ⟨field, -, found⟩ := List.mem_filterMap.mp saved
    rcases data : field.data with ⟨body, fs, name⟩ | text <;> simp only [data] at found
    · exact ⟨body, fs, name, Option.some.inj found⟩
    · cases found
  · cases stops with
    | ended | sourceFailed | countLimit => cases stopped
    | savedPartly file within outcome | saveFailed file within outcome =>
      rw [List.mem_singleton] at stopped
      subst stopped
      rw [saveDir] at outcome
      exact ⟨_, _, _, by rw [outcome]⟩

/-- The save the loop makes of a first file field, within the count limit, is among its dests,
whatever its outcome. -/
theorem withEntries_first_dest (entries : Entries) {field : MultipartField} {fields : List MultipartField}
    {body : Body} {fs : FileSystem} {name : RandomName} (first : builder.savable.fields = field :: fields)
    (file : field.data = .file body fs name) (within : builder.countLimit.any (· ≤ 0) = false) :
    (saveFile builder entries.saveDir body fs name).2.2 ∈ (withEntries builder entries).2 := by
  rw [withEntries, first, withEntries.go, file]
  simp only [within]
  rcases saveFile builder entries.saveDir body fs name with ⟨_ | _ | _, _, _⟩ <;> simp

end SaveBuilder.Request

/-- Under the temporary directory /tmp, `with_filename("upload.bin")` spills the field `FF FF`
under `memory_threshold` 1 to /upload.bin, not to /tmp/upload.bin; and the whole-request
`with_dir(/uploads/new)` of a request whose one file field stays in memory returns `Full` having
asked `create_dir_all` for /uploads only, so /uploads/new is never made. -/
theorem entryPoints_misplace :
    ((SaveBuilder.spilling .ff).withFilename ⟨true, ["tmp"]⟩ "upload.bin" .healthy).1 =
        .full (.file ⟨true, ["upload.bin"]⟩ 2) ∧
      (⟨true, ["upload.bin"]⟩ : Path) ≠ (⟨true, ["tmp"]⟩ : Path).join "upload.bin" ∧
      SaveBuilder.Request.withDir (SaveBuilder.new FieldSource.a) ⟨true, ["uploads", "new"]⟩ .healthy =
        ((.full ⟨[], [("f", [.bytes [0x61]])], .perm ⟨true, ["uploads", "new"]⟩⟩, [⟨[], none⟩]),
          [.createDirAll ⟨true, ["uploads"]⟩]) ∧
      ((SaveBuilder.Request.withDir (SaveBuilder.new FieldSource.a) ⟨true, ["uploads", "new"]⟩ .healthy).2 ++
        (SaveBuilder.Request.withDir (SaveBuilder.new FieldSource.a) ⟨true, ["uploads", "new"]⟩ .healthy).1.2.flatMap
          Dest.calls).any (FsCall.asksFor · ⟨true, ["uploads", "new"]⟩) = false := by
  have spilled : ((SaveBuilder.spilling .ff).withFilename ⟨true, ["tmp"]⟩ "upload.bin" .healthy).1 =
      .full (.file ⟨true, ["upload.bin"]⟩ 2) :=
    SaveBuilder.spilling_ff _
  have kept : SaveBuilder.Request.withDir (SaveBuilder.new FieldSource.a) ⟨true, ["uploads", "new"]⟩ .healthy =
      ((.full ⟨[], [("f", [.bytes [0x61]])], .perm ⟨true, ["uploads", "new"]⟩⟩, [⟨[], none⟩]),
        [.createDirAll ⟨true, ["uploads"]⟩]) := by
    obtain ⟨body, outcome⟩ : ∃ body, SaveBuilder.Request.saveFile (SaveBuilder.new FieldSource.a)
        (.perm ⟨true, ["uploads", "new"]⟩) .a .healthy .sample = (.full (.bytes [0x61]), body, ⟨[], none⟩) :=
      ⟨_, SaveBuilder.withPath_fits ((SaveBuilder.new Body.a).setSizeLimit none) _ _ rfl
        (by decide) (fun _ absent => by cases absent)⟩
    have made : createDirAll .healthy ⟨true, ["uploads", "new"]⟩ =
        (.ok (), [.createDirAll ⟨true, ["uploads"]⟩]) := rfl
    unfold SaveBuilder.Request.withDir SaveBuilder.Request.withEntries
    rw [made]
    simp only [SaveBuilder.Request.withEntries.go, Entries.new]
    rw [outcome]
    rfl
  exact ⟨spilled, by decide, kept, by rw [kept]; decide⟩

end Multipart
