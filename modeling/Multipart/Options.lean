import Multipart.Locations

/-! The builder's configuration API and the files a save opens. A caller holds a builder made by
`new` and configured by setter calls. `mod_open_opts` sets `write` again after its closure, so
every file `with_path` opens is opened for writing, and, short of a `mod_open_opts`, as a new file
only. `with_entries` saves each file field through a builder of its own from `new`, so the files a
request save opens are new files in the save directory, whatever open options the request's
builder carries. -/

namespace Multipart

/-- A call of the builder's configuration API. -/
inductive Setter
  | sizeLimit (limit : Option Nat)
  | modOpenOpts (modify : OpenOptions → OpenOptions)
  | memoryThreshold (threshold : Nat)
  | tryText
  | forceText
  | ignoreText
  | countLimit (limit : Option Nat)

namespace Setter

variable {S : Type}

/-- The builder method the call names. -/
def apply : Setter → SaveBuilder S → SaveBuilder S
  | .sizeLimit limit => SaveBuilder.setSizeLimit limit
  | .modOpenOpts modify => SaveBuilder.modOpenOpts modify
  | .memoryThreshold threshold => SaveBuilder.setMemoryThreshold threshold
  | .tryText => SaveBuilder.tryText
  | .forceText => SaveBuilder.forceText
  | .ignoreText => SaveBuilder.ignoreText
  | .countLimit limit => SaveBuilder.setCountLimit limit

/-- Whether the call is `mod_open_opts`. -/
def modifiesOpenOpts : Setter → Bool
  | .modOpenOpts _ => true
  | _ => false

/-- Every call leaves `write` set: `mod_open_opts` sets it again, the others keep the options. -/
theorem apply_write (setter : Setter) {builder : SaveBuilder S} (writes : builder.openOpts.write = true) :
    (setter.apply builder).openOpts.write = true := by
  cases setter <;> first | rfl | exact writes

/-- A call other than `mod_open_opts` keeps the open options. -/
theorem apply_openOpts {setter : Setter} (kept : setter.modifiesOpenOpts = false) (builder : SaveBuilder S) :
    (setter.apply builder).openOpts = builder.openOpts := by
  cases setter <;> first | rfl | cases kept

end Setter

namespace SaveBuilder

variable {S : Type}

/-- A builder configured by a sequence of setter calls, in order. -/
def configure (setters : List Setter) (builder : SaveBuilder S) : SaveBuilder S :=
  setters.foldl (fun builder setter => setter.apply builder) builder

theorem configure_write (setters : List Setter) {builder : SaveBuilder S} (writes : builder.openOpts.write = true) :
    (configure setters builder).openOpts.write = true := by
  induction setters generalizing builder with
  | nil => exact writes
  | cons setter setters ih => exact ih (setter.apply_write writes)

theorem configure_openOpts {setters : List Setter} (kept : setters.all (!·.modifiesOpenOpts) = true)
    (builder : SaveBuilder S) : (configure setters builder).openOpts = builder.openOpts := by
  induction setters generalizing builder with
  | nil => rfl
  | cons setter setters ih =>
    simp only [List.all_cons, Bool.and_eq_true, Bool.not_eq_true'] at kept
    exact (ih kept.2 _).trans (Setter.apply_openOpts kept.1 builder)

/-- Every file a single-field save opens, through a builder made by `new` and configured by any
sequence of setter calls, is the path it was given, opened with the configured builder's open
options, and so for writing whatever the `mod_open_opts` closures did; with no `mod_open_opts`
call, it is opened as `new` sets the options: for writing, and as a new file only. -/
theorem withPath_configured_opens (savable : Body) (setters : List Setter) (path : Path) (fs : FileSystem) :
    ∀ options target, .openFile options target ∈ ((configure setters (new savable)).withPath path fs).2.2.calls →
      target = path ∧ options = (configure setters (new savable)).openOpts ∧ options.write = true ∧
        (setters.all (!·.modifiesOpenOpts) = true → options = (new savable).openOpts) := by
  intro options target opened
  obtain ⟨rfl, rfl⟩ := withPath_opens _ path fs opened
  exact ⟨rfl, rfl, configure_write setters rfl, fun kept => configure_openOpts kept _⟩

/-- `memory_threshold` 1, then a `mod_open_opts` closure that clears `write` and sets `truncate`. -/
def truncatingSetters : List Setter :=
  [.memoryThreshold 1, .modOpenOpts fun options => { options with write := false, truncate := true }]

/-- The field `FF FF` under the truncating setters spills, and its file is opened for writing all
the same, with `truncate` and `create_new` set. -/
theorem withPath_configured_opens_ff :
    .openFile ⟨false, true, false, true, false, true⟩ ⟨true, ["tmp", "upload"]⟩ ∈
        ((configure truncatingSetters (new Body.ff)).withPath ⟨true, ["tmp", "upload"]⟩ .healthy).2.2.calls ∧
      (⟨true, ["tmp", "upload"]⟩ : Path) = ⟨true, ["tmp", "upload"]⟩ ∧
      (⟨false, true, false, true, false, true⟩ : OpenOptions) = (configure truncatingSetters (new Body.ff)).openOpts ∧
      (⟨false, true, false, true, false, true⟩ : OpenOptions).write = true ∧
      (truncatingSetters.all (!·.modifiesOpenOpts) = true →
        (⟨false, true, false, true, false, true⟩ : OpenOptions) = (new Body.ff).openOpts) := by
  have opened : .openFile ⟨false, true, false, true, false, true⟩ ⟨true, ["tmp", "upload"]⟩ ∈
      ((configure truncatingSetters (new Body.ff)).withPath ⟨true, ["tmp", "upload"]⟩ .healthy).2.2.calls :=
    (withPath_opens_spilled (configure truncatingSetters (new Body.ff)) _ _ rfl rfl (by decide) (.inr ⟨rfl, rfl⟩)
      (fun _ => rfl) rfl).1
  exact ⟨opened, withPath_configured_opens _ _ _ _ _ _ opened⟩

end SaveBuilder

namespace SaveBuilder.Request

variable (builder : SaveBuilder FieldSource)

/-- Every file a whole-request save opens is a fresh random name directly in the save directory,
opened for writing and as a new file only, whatever open options the request's builder carries:
each file field is saved through a builder of its own from `new`. -/
theorem withEntries_opens_new (entries : Entries) :
    ∀ dest ∈ (withEntries builder entries).2, ∀ options target, .openFile options target ∈ dest.calls →
      options = { OpenOptions.new with write := true, createNew := true } ∧
        ∃ name : RandomName, target = entries.saveDir.asPath.join name.name := by
  intro dest member options target opened
  obtain ⟨body, fs, name, rfl⟩ := withEntries_dests builder entries member
  obtain ⟨rfl, rfl⟩ := SaveBuilder.withPath_opens ((SaveBuilder.new body).setSizeLimit builder.sizeLimit)
    (entries.saveDir.asPath.join name.name) fs opened
  exact ⟨rfl, name, rfl⟩

/-- A request of one file field "f" holding the large field, `DEFAULT_MEMORY_THRESHOLD` + 1 bytes
`FF`, saved into `/uploads` on a filesystem where every call succeeds: its save spills the field,
and the file it opens is `/uploads/abcdefghijkl`, opened for writing as a new file. -/
theorem withEntries_opens_new_large :
    (saveFile (SaveBuilder.new FieldSource.large) (.perm ⟨true, ["uploads"]⟩) .large .healthy .sample).2.2 ∈
        (withEntries (SaveBuilder.new FieldSource.large) (.new (.perm ⟨true, ["uploads"]⟩))).2 ∧
      .openFile { OpenOptions.new with write := true, createNew := true } ⟨true, ["uploads", "abcdefghijkl"]⟩ ∈
        (saveFile (SaveBuilder.new FieldSource.large) (.perm ⟨true, ["uploads"]⟩) .large .healthy .sample).2.2.calls ∧
      { OpenOptions.new with write := true, createNew := true } =
          { OpenOptions.new with write := true, createNew := true } ∧
        ∃ name : RandomName, (⟨true, ["uploads", "abcdefghijkl"]⟩ : Path) =
          (Entries.new (.perm ⟨true, ["uploads"]⟩)).saveDir.asPath.join name.name := by
  have member := withEntries_first_dest (SaveBuilder.new FieldSource.large) (.new (.perm ⟨true, ["uploads"]⟩))
    rfl rfl rfl
  have opened : .openFile { OpenOptions.new with write := true, createNew := true } ⟨true, ["uploads", "abcdefghijkl"]⟩ ∈
      (saveFile (SaveBuilder.new FieldSource.large) (.perm ⟨true, ["uploads"]⟩) .large .healthy .sample).2.2.calls :=
    (SaveBuilder.withPath_opens_spilled ((SaveBuilder.new Body.large).setSizeLimit none) _ _ rfl rfl
      Body.large_longer (.inr ⟨rfl, Body.large_undecoded⟩) (fun _ => rfl) rfl).1
  exact ⟨member, opened, withEntries_opens_new _ _ _ member _ _ opened⟩

end SaveBuilder.Request

end Multipart
