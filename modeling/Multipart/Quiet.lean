import Multipart.FieldSpec

/-! The closed form of a quiet single-field save: on a run with no failure, what `with_path`
returns depends on the configuration and the field's content alone. -/

namespace Multipart.SaveBuilder

variable (builder : SaveBuilder Body)

/-- A quiet spill of a field longer than the buffer: a file holding the buffer and then the rest
of the field, the rest cut at `size_limit` on its own. -/
def quietSpill (path : Path) (content : List UInt8) : FieldSaveResult :=
  match builder.sizeLimit with
  | some limit =>
    if content.length - builder.memoryThreshold ≤ limit then .full (.file path content.length)
    else .partly (.file path (builder.memoryThreshold + limit)) .sizeLimit
  | none => .full (.file path content.length)

/-- A quiet save that does not stop at a lower `size_limit`: the field as `Bytes` when it ends
within the buffer; past a full buffer, the buffer as `Text` when it decodes and the policy asks
for text, `InvalidData` under `Force` when it does not, and a spill otherwise. -/
def quietBeyond (path : Path) (content : List UInt8) : FieldSaveResult :=
  if content.length ≤ builder.memoryThreshold then .full (.bytes content) else
    match builder.textPolicy, fromUtf8 (content.take builder.memoryThreshold) with
    | .ignore, _ | .try, none => builder.quietSpill path content
    | _, some text => .full (.text text)
    | .force, none => .error ⟨.invalidData⟩

/-- What `with_path` returns on a run with no failure, from the configuration and the field's
content: under a `size_limit` below `memory_threshold` the field as `Bytes`, cut at the limit,
whatever the text policy; otherwise `quietBeyond`. -/
def quietOutcome (path : Path) (content : List UInt8) : FieldSaveResult :=
  match builder.sizeLimit with
  | some limit =>
    if limit < builder.memoryThreshold then
      if content.length ≤ limit then .full (.bytes content) else .partly (.bytes (content.take limit)) .sizeLimit
    else builder.quietBeyond path content
  | none => builder.quietBeyond path content

section Beyond

variable {path : Path} {fs : FileSystem} (quiet : builder.savable.failures = 0)
  (notSmall : builder.sizeLimit.any (· < builder.memoryThreshold) = false)
  (longer : builder.memoryThreshold < builder.savable.rest.length)
include quiet notSmall longer

/-- Under `Force`, a full buffer that does not decode fails the save with `InvalidData`. -/
theorem withPath_force_rejects (forced : builder.textPolicy = .force)
    (undecoded : fromUtf8 (builder.savable.rest.take builder.memoryThreshold) = none) :
    (builder.withPath path fs).1 = .error ⟨.invalidData⟩ := by
  obtain ⟨saved, -⟩ := builder.saveMem_beyond quiet notSmall longer
  unfold withPath
  rcases result : builder.saveMem with ⟨first, body⟩
  rw [result] at saved
  dsimp only at saved
  subst saved
  dsimp only
  rw [forced, undecoded]

end Beyond

/-- On a run with no failure (a body with no failure to come, a filesystem whose calls succeed,
and a file that takes at least a byte on every write), `with_path` returns `quietOutcome` of the
field's content. -/
theorem withPath_quiet (path : Path) {fs : FileSystem} (quiet : builder.savable.failures = 0)
    (created : ∀ dir, fs.createDirAll dir = .ok ()) (opened : fs.openFile builder.openOpts path = .ok ())
    (reliable : Writer.Reliable ⟨fs.writes, []⟩) :
    (builder.withPath path fs).1 = builder.quietOutcome path builder.savable.rest := by
  by_cases small : builder.sizeLimit.any (· < builder.memoryThreshold) = true
  · obtain ⟨limit, sized, below⟩ :
        ∃ limit, builder.sizeLimit = some limit ∧ limit < builder.memoryThreshold := by
      rcases sized : builder.sizeLimit with _ | limit <;> simp_all
    have saved := builder.saveMem_small quiet sized below
    unfold withPath quietOutcome
    rcases result : builder.saveMem with ⟨first, body⟩
    rw [result] at saved
    dsimp only at saved
    subst saved
    rw [sized]
    dsimp only
    rw [if_pos below]
    split_ifs <;> rfl
  have notSmall := Bool.eq_false_iff.mpr small
  have beyond : builder.quietOutcome path builder.savable.rest = builder.quietBeyond path builder.savable.rest := by
    unfold quietOutcome
    rcases sized : builder.sizeLimit with _ | limit
    · rfl
    · rw [sized] at notSmall
      simp only [Option.any_some, decide_eq_false_iff_not] at notSmall
      exact if_neg notSmall
  rw [beyond, quietBeyond]
  by_cases fits : builder.savable.rest.length ≤ builder.memoryThreshold
  · rw [if_pos fits, builder.withPath_fits path fs quiet fits fun limit sized => ?_]
    rw [sized] at notSmall
    simp only [Option.any_some, decide_eq_false_iff_not] at notSmall
    omega
  have longer : builder.memoryThreshold < builder.savable.rest.length := by omega
  have spilled := fun undecoded => builder.withPath_spills_quiet path quiet notSmall longer undecoded created opened
    reliable
  rw [if_neg fits]
  rcases policy : builder.textPolicy with _ | _ | _ <;>
    rcases decoded : fromUtf8 (builder.savable.rest.take builder.memoryThreshold) with _ | text <;> dsimp only
  · exact spilled (.inr ⟨policy, decoded⟩)
  · rw [(builder.withPath_prefixText path fs quiet notSmall longer (by simp [policy]) decoded).1]
  · exact builder.withPath_force_rejects quiet notSmall longer policy decoded
  · rw [(builder.withPath_prefixText path fs quiet notSmall longer (by simp [policy]) decoded).1]
  all_goals exact spilled (.inl policy)

/-- The field "ab" under `memory_threshold` 1 on a healthy filesystem. -/
theorem withPath_quiet_ab :
    ((SaveBuilder.new (⟨[.chunk 0x61 [0x62]]⟩ : Body)).setMemoryThreshold 1).savable.failures = 0 ∧
      (∀ dir, FileSystem.healthy.createDirAll dir = .ok ()) ∧
      FileSystem.healthy.openFile ((SaveBuilder.new (⟨[.chunk 0x61 [0x62]]⟩ : Body)).setMemoryThreshold 1).openOpts
        ⟨true, ["tmp", "upload"]⟩ = .ok () ∧
      Writer.Reliable ⟨FileSystem.healthy.writes, []⟩ ∧
      (((SaveBuilder.new (⟨[.chunk 0x61 [0x62]]⟩ : Body)).setMemoryThreshold 1).withPath
        ⟨true, ["tmp", "upload"]⟩ .healthy).1 =
        ((SaveBuilder.new (⟨[.chunk 0x61 [0x62]]⟩ : Body)).setMemoryThreshold 1).quietOutcome
          ⟨true, ["tmp", "upload"]⟩ [0x61, 0x62] :=
  ⟨rfl, fun _ => rfl, rfl, Writer.reliable_vec,
    withPath_quiet _ _ rfl (fun _ => rfl) rfl Writer.reliable_vec⟩

end Multipart.SaveBuilder
