import Multipart.SaveResult

/-! The streaming copier: `try_write_all`, `try_copy_buf` and `try_copy_limited`, with the
conservation law they share: the writer takes exactly what the reader gives up, a prefix of
the reader's content, as many bytes as the result reports. -/

namespace Multipart

/-- The count a copy reports: the value of `Full` or `Partial`; an `Error` reports none. -/
def SaveResult.progress : SaveResult Nat Nat → Nat
  | .full copied => copied
  | .partly copied _ => copied
  | .error _ => 0

/-- The `Err` arm of the copy loops' `try_here!`: the failure, with the progress made if any. -/
def failedAfter (total : Nat) (error : IoError) : SaveResult Nat Nat :=
  if total = 0 then .error error else .partly total (.ioError error)

@[simp] theorem failedAfter_progress (total : Nat) (error : IoError) :
    (failedAfter total error).progress = total := by
  unfold failedAfter; split <;> simp_all [SaveResult.progress]

@[simp] theorem failedAfter_ne_full (total copied : Nat) (error : IoError) :
    failedAfter total error ≠ .full copied := by
  unfold failedAfter; split <;> simp

/-- `try_write_all`: write all of `buf`, retrying interrupted writes and reissuing short ones. -/
def tryWriteAll (buf : List UInt8) (dest : Writer) : SaveResult Nat Nat × Writer :=
  go 0 buf dest
where
  /-- The `while !buf.is_empty()` loop, with the bytes written so far. -/
  go (total : Nat) (buf : List UInt8) (dest : Writer) : SaveResult Nat Nat × Writer :=
    if _nonempty : buf = [] then (.full total, dest) else
      match _wrote : dest.write buf with
      | (.error error, dest') =>
        if error.kind = .interrupted then go total buf dest' else (failedAfter total error, dest')
      | (.ok copied, dest') =>
        if copied = 0 then (failedAfter total ⟨.writeZero⟩, dest')
        else go (total + copied) (buf.drop copied) dest'
  termination_by dest.writes.length + buf.length
  decreasing_by
    all_goals simp_wf
    · have := (Writer.write_error _wrote).2; omega
    · have := Writer.write_ok _wrote
      have := List.length_pos.mpr _nonempty
      omega

namespace tryWriteAll

variable {total : Nat} {buf : List UInt8} {dest dest' : Writer}

theorem go_write_error {error : IoError} (nonempty : buf ≠ [])
    (wrote : dest.write buf = (.error error, dest')) :
    go total buf dest =
      if error.kind = .interrupted then go total buf dest' else (failedAfter total error, dest') := by
  rw [go, dif_neg nonempty]; split <;> simp_all

theorem go_write_ok {copied : Nat} (nonempty : buf ≠ [])
    (wrote : dest.write buf = (.ok copied, dest')) :
    go total buf dest = if copied = 0 then (failedAfter total ⟨.writeZero⟩, dest')
      else go (total + copied) (buf.drop copied) dest' := by
  rw [go, dif_neg nonempty]; split <;> simp_all

theorem go_nil_buf (total : Nat) (dest : Writer) : go total [] dest = (.full total, dest) := by
  rw [go]; rfl

/-- A writer with no scripted answers takes the whole buffer in one call. -/
theorem go_unscripted (total : Nat) (buf : List UInt8) {dest : Writer} (unscripted : dest.writes = []) :
    go total buf dest = (.full (total + buf.length), { dest with written := dest.written ++ buf }) := by
  by_cases empty : buf = []
  · subst empty; simpa using go_nil_buf total dest
  have wrote : dest.write buf = (.ok buf.length, { dest with written := dest.written ++ buf }) := by
    simp [Writer.write, unscripted]
  rw [go_write_ok empty wrote, if_neg (by simpa using empty), List.drop_length, go_nil_buf]

/-- The write loop hands the writer a prefix of `buf`: all of it on `Full`; otherwise it stops
short on a failure other than `Interrupted`. -/
theorem go_spec (total : Nat) (buf : List UInt8) (dest : Writer) :
    ∃ copied ≤ buf.length, (go total buf dest).2.written = dest.written ++ buf.take copied ∧
      ((go total buf dest).1 = .full (total + copied) ∧ copied = buf.length ∨
        ∃ error : IoError, error.kind ≠ .interrupted ∧ copied < buf.length ∧
          (go total buf dest).1 = failedAfter (total + copied) error) := by
  induction total, buf, dest using go.induct with
  | case1 total dest => exact ⟨0, le_rfl, by simp [go], .inl ⟨by simp [go], rfl⟩⟩
  | case2 total buf dest nonempty error dest' wrote interrupted ih =>
    rw [go_write_error nonempty wrote, if_pos interrupted, ← (Writer.write_error wrote).1]
    exact ih
  | case3 total buf dest nonempty error dest' wrote interrupted =>
    rw [go_write_error nonempty wrote, if_neg interrupted]
    exact ⟨0, Nat.zero_le _, by simp [(Writer.write_error wrote).1],
      .inr ⟨error, interrupted, List.length_pos.mpr nonempty, rfl⟩⟩
  | case4 total buf dest nonempty dest' wrote =>
    rw [go_write_ok nonempty wrote, if_pos rfl]
    exact ⟨0, Nat.zero_le _, by simp [(Writer.write_ok wrote).2.1],
      .inr ⟨⟨.writeZero⟩, by simp, List.length_pos.mpr nonempty, rfl⟩⟩
  | case5 total buf dest nonempty copied dest' wrote nonzero ih =>
    obtain ⟨within, written, -, -⟩ := Writer.write_ok wrote
    obtain ⟨more, bounded, written', outcome⟩ := ih
    rw [go_write_ok nonempty wrote, if_neg nonzero]
    refine ⟨copied + more, by simp at bounded; omega, ?_, ?_⟩
    · rw [written', written, List.take_add, List.append_assoc]
    · simp only [List.length_drop, Nat.add_assoc] at outcome ⊢
      rcases outcome with ⟨full, all⟩ | ⟨error, interrupted, short, failed⟩
      · exact .inl ⟨full, by omega⟩
      · exact .inr ⟨error, interrupted, by omega, failed⟩

end tryWriteAll

/-- `try_write_all` hands the writer a prefix of `buf`, as many bytes as it reports, all of
`buf` on `Full`; any other outcome is a failure other than `Interrupted`. -/
theorem tryWriteAll_spec (buf : List UInt8) (dest : Writer) :
    ∃ copied ≤ buf.length, (tryWriteAll buf dest).2.written = dest.written ++ buf.take copied ∧
      ((tryWriteAll buf dest).1 = .full copied ∧ copied = buf.length ∨
        ∃ error : IoError, error.kind ≠ .interrupted ∧ copied < buf.length ∧
          (tryWriteAll buf dest).1 = failedAfter copied error) := by
  simpa using tryWriteAll.go_spec 0 buf dest

theorem failedAfter_partly {total copied : Nat} {error : IoError} {reason : PartialReason}
    (failed : failedAfter total error = .partly copied reason) : reason = .ioError error := by
  unfold failedAfter at failed; split at failed <;> simp_all

/-- The writer took as many bytes of `buf` as `try_write_all` reports. -/
theorem tryWriteAll_written {buf : List UInt8} {dest dest' : Writer} {result : SaveResult Nat Nat}
    (wrote : tryWriteAll buf dest = (result, dest')) :
    result.progress ≤ buf.length ∧ dest'.written = dest.written ++ buf.take result.progress := by
  obtain ⟨copied, bounded, written, ⟨full, -⟩ | ⟨error, -, -, failed⟩⟩ := tryWriteAll_spec buf dest
  · simp only [wrote] at written full; subst full; exact ⟨bounded, written⟩
  · simp only [wrote] at written failed; subst failed; simpa using ⟨bounded, written⟩

theorem tryWriteAll_partly {buf : List UInt8} {dest dest' : Writer} {copied : Nat}
    {reason : PartialReason} (wrote : tryWriteAll buf dest = (.partly copied reason, dest')) :
    ∃ error, reason = .ioError error := by
  obtain ⟨n, -, -, ⟨full, -⟩ | ⟨error, -, -, failed⟩⟩ := tryWriteAll_spec buf dest
  · rw [wrote] at full; cases full
  · rw [wrote] at failed; exact ⟨error, failedAfter_partly failed.symm⟩

theorem tryWriteAll_full {buf : List UInt8} {dest dest' : Writer} {copied : Nat}
    (wrote : tryWriteAll buf dest = (.full copied, dest')) : copied = buf.length := by
  obtain ⟨n, -, -, ⟨full, all⟩ | ⟨error, -, -, failed⟩⟩ := tryWriteAll_spec buf dest
  · rw [wrote] at full; cases full; exact all
  · rw [wrote] at failed; exact absurd failed.symm (failedAfter_ne_full _ _ _)

theorem tryWriteAll.go_reliable (total : Nat) (buf : List UInt8) (dest : Writer)
    (reliable : dest.Reliable) :
    (go total buf dest).1 = .full (total + buf.length) ∧ (go total buf dest).2.Reliable := by
  induction total, buf, dest using go.induct with
  | case1 total dest => simpa [go] using reliable
  | case2 total buf dest nonempty error dest' wrote
  | case3 total buf dest nonempty error dest' wrote =>
    obtain ⟨copied, dest'', ok, -⟩ := Writer.write_reliable reliable nonempty
    simp [ok] at wrote
  | case4 total buf dest nonempty dest' wrote =>
    obtain ⟨copied, dest'', ok, -⟩ := Writer.write_reliable reliable nonempty
    simp [ok] at wrote
  | case5 total buf dest nonempty copied dest' wrote nonzero ih =>
    have within := (Writer.write_ok wrote).1
    rw [go_write_ok nonempty wrote, if_neg nonzero]
    obtain ⟨n, dest'', ok, reliable'⟩ := Writer.write_reliable reliable nonempty
    rw [ok] at wrote
    cases wrote
    obtain ⟨full, reliable''⟩ := ih reliable'
    exact ⟨by rw [full, List.length_drop]; congr 1; omega, reliable''⟩

/-- A writer that neither fails nor stalls takes all of `buf`. -/
theorem tryWriteAll_reliable {buf : List UInt8} {dest dest' : Writer} {result : SaveResult Nat Nat}
    (reliable : dest.Reliable) (wrote : tryWriteAll buf dest = (result, dest')) :
    result = .full buf.length ∧ dest'.Reliable := by
  rw [tryWriteAll] at wrote
  simpa [wrote] using tryWriteAll.go_reliable 0 buf dest reliable

/-- `try_copy_buf`: copy `src` to `dest` chunk by chunk until `src` reports its end. -/
def tryCopyBuf {σ : Type} [BufRead σ] (src : σ) (dest : Writer) : SaveResult Nat Nat × σ × Writer :=
  go 0 src dest
where
  /-- The copy loop, with the bytes copied so far. -/
  go (total : Nat) (src : σ) (dest : Writer) : SaveResult Nat Nat × σ × Writer :=
    match _filled : BufRead.fillBuf src with
    | (.error error, src') =>
      if error.kind = .interrupted then go total src' dest else (failedAfter total error, src', dest)
    | (.ok buf, src') =>
      if _nonempty : buf = [] then (.full total, src', dest) else
        match _wrote : tryWriteAll buf dest with
        | (.full copied, dest') => go (total + copied) (BufRead.consume copied src') dest'
        | (.partly copied reason, dest') =>
          (.partly (total + copied) reason, BufRead.consume copied src', dest')
        | (.error error, dest') => (.partly total (.ioError error), src', dest')
  termination_by (BufRead.rest src).length + BufRead.failures src
  decreasing_by
    all_goals simp_wf
    · obtain ⟨unchanged, fewer⟩ := BufRead.fillBuf_error _filled
      rw [unchanged]; omega
    · obtain ⟨rfl, prefix_, -⟩ := BufRead.fillBuf_ok _filled
      have all := tryWriteAll_full _wrote
      obtain ⟨dropped, fewer⟩ := BufRead.consume_rest (congrArg Prod.fst _filled) all.le
      rw [dropped, List.length_drop]
      have := prefix_.length_le
      have := List.length_pos.mpr _nonempty
      omega

namespace tryCopyBuf

variable {σ : Type} [BufRead σ] {total : Nat} {src src' : σ} {dest dest' : Writer} {buf : List UInt8}

theorem go_fill_error {error : IoError} (filled : BufRead.fillBuf src = (.error error, src')) :
    go total src dest = if error.kind = .interrupted then go total src' dest
      else (failedAfter total error, src', dest) := by
  rw [go]; split <;> simp_all

theorem go_fill_end (filled : BufRead.fillBuf src = (.ok [], src')) :
    go total src dest = (.full total, src', dest) := by
  rw [go]; split <;> simp_all

theorem go_write_full {copied : Nat} (filled : BufRead.fillBuf src = (.ok buf, src'))
    (nonempty : buf ≠ []) (wrote : tryWriteAll buf dest = (.full copied, dest')) :
    go total src dest = go (total + copied) (BufRead.consume copied src') dest' := by
  rw [go]; split <;> simp_all; split <;> simp_all

theorem go_write_partly {copied : Nat} {reason : PartialReason}
    (filled : BufRead.fillBuf src = (.ok buf, src')) (nonempty : buf ≠ [])
    (wrote : tryWriteAll buf dest = (.partly copied reason, dest')) :
    go total src dest = (.partly (total + copied) reason, BufRead.consume copied src', dest') := by
  rw [go]; split <;> simp_all; split <;> simp_all

theorem go_write_error {error : IoError} (filled : BufRead.fillBuf src = (.ok buf, src'))
    (nonempty : buf ≠ []) (wrote : tryWriteAll buf dest = (.error error, dest')) :
    go total src dest = (.partly total (.ioError error), src', dest') := by
  rw [go]; split <;> simp_all; split <;> simp_all

/-- A refill written out `Full`: the refill was a prefix of what `src` had left, all of it went to
the writer, and consuming it drops exactly those bytes. -/
theorem consume_full_write {copied : Nat} (filled : BufRead.fillBuf src = (.ok buf, src'))
    (wrote : tryWriteAll buf dest = (.full copied, dest')) :
    src' = src ∧ copied = buf.length ∧ copied ≤ (BufRead.rest src).length ∧
      buf = (BufRead.rest src).take copied ∧ dest'.written = dest.written ++ buf ∧
      BufRead.rest (BufRead.consume copied src') = (BufRead.rest src).drop copied ∧
      BufRead.failures (BufRead.consume copied src') ≤ BufRead.failures src := by
  obtain ⟨rfl, prefix_, -⟩ := BufRead.fillBuf_ok filled
  have all := tryWriteAll_full wrote
  obtain ⟨dropped, fewer⟩ := BufRead.consume_rest (congrArg Prod.fst filled) all.le
  refine ⟨rfl, all, all ▸ prefix_.length_le, all ▸ List.prefix_iff_eq_take.mp prefix_, ?_, dropped, fewer⟩
  simpa [SaveResult.progress, all] using (tryWriteAll_written wrote).2

/-- The copy loop conserves bytes: the writer receives a prefix of what `src` had left, the
same prefix leaves `src` (also as seen through any observation `view` that consumption drops
from and failures leave alone), and the result reports its length on top of `total`. -/
theorem go_spec (view : σ → List UInt8)
    (viewError : ∀ {src src' : σ} {error}, BufRead.fillBuf src = (.error error, src') → view src' = view src)
    (viewConsume : ∀ {src : σ} {buf amount}, (BufRead.fillBuf src).1 = .ok buf → buf ≠ [] →
      amount ≤ buf.length → view (BufRead.consume amount src) = (view src).drop amount)
    (total : Nat) (src : σ) (dest : Writer) :
    ∃ copied ≤ (BufRead.rest src).length,
      (go total src dest).1.progress = total + copied ∧
      (go total src dest).2.2.written = dest.written ++ (BufRead.rest src).take copied ∧
      BufRead.rest (go total src dest).2.1 = (BufRead.rest src).drop copied ∧
      view (go total src dest).2.1 = (view src).drop copied ∧
      (∀ n, (go total src dest).1 = .full n → BufRead.rest (go total src dest).2.1 = []) ∧
      (∀ n reason, (go total src dest).1 = .partly n reason → ∃ error, reason = .ioError error) := by
  induction total, src, dest using go.induct with
  | case1 total src dest error src' filled interrupted ih =>
    rw [go_fill_error filled, if_pos interrupted, ← (BufRead.fillBuf_error filled).1,
      ← viewError filled]
    exact ih
  | case2 total src dest error src' filled interrupted =>
    rw [go_fill_error filled, if_neg interrupted]
    refine ⟨0, Nat.zero_le _, by simp, by simp, ?_, by simp [viewError filled], ?_, ?_⟩
    · simp [(BufRead.fillBuf_error filled).1]
    · intro n full; exact absurd full (failedAfter_ne_full _ _ _)
    · intro n reason failed; exact ⟨error, failedAfter_partly failed⟩
  | case3 total src dest src' filled =>
    obtain ⟨same, -, ended⟩ := BufRead.fillBuf_ok filled
    subst src'
    rw [go_fill_end filled]
    simp [SaveResult.progress, ended rfl]
  | case4 total src dest buf src' filled nonempty copied dest' wrote ih =>
    obtain ⟨rfl, all, within, taken, written, dropped, -⟩ := consume_full_write filled wrote
    rw [go_write_full filled nonempty wrote]
    obtain ⟨more, bounded, progress, written', rest', view', full, partly⟩ := ih
    rw [dropped] at bounded written' rest'
    rw [viewConsume (congrArg Prod.fst filled) nonempty all.le] at view'
    refine ⟨copied + more, ?_, by rw [progress]; omega, ?_, ?_, ?_, full, partly⟩
    · simp only [List.length_drop] at bounded; omega
    · rw [written', written, taken, List.take_add, List.append_assoc]
    · rw [rest', List.drop_drop]
    · rw [view', List.drop_drop]
  | case5 total src dest buf src' filled nonempty copied reason dest' wrote =>
    obtain ⟨same, prefix_, -⟩ := BufRead.fillBuf_ok filled
    subst src'
    obtain ⟨bounded, written⟩ := tryWriteAll_written wrote
    simp only [SaveResult.progress] at bounded written
    have taken : buf.take copied = (BufRead.rest src).take copied := by
      rw [List.prefix_iff_eq_take.mp prefix_, List.take_take, Nat.min_eq_left bounded]
    obtain ⟨dropped, -⟩ := BufRead.consume_rest (congrArg Prod.fst filled) bounded
    rw [go_write_partly filled nonempty wrote]
    refine ⟨copied, le_trans bounded prefix_.length_le, rfl, by rw [written, taken], dropped,
      viewConsume (congrArg Prod.fst filled) nonempty bounded, by simp, fun n reason' same => ?_⟩
    cases same
    exact tryWriteAll_partly wrote
  | case6 total src dest buf src' filled nonempty error dest' wrote =>
    obtain ⟨same, -, -⟩ := BufRead.fillBuf_ok filled
    subst src'
    have written := (tryWriteAll_written wrote).2
    rw [go_write_error filled nonempty wrote]
    refine ⟨0, Nat.zero_le _, rfl, by simpa [SaveResult.progress] using written, by simp, by simp,
      by simp, fun n reason same => ?_⟩
    cases same
    exact ⟨error, rfl⟩

/-- A quantity that failed refills do not raise and consumption does not raise is not raised
by the copy loop. -/
theorem go_mono (count : σ → Nat)
    (countError : ∀ {src src' : σ} {error}, BufRead.fillBuf src = (.error error, src') →
      count src' ≤ count src)
    (countConsume : ∀ {src : σ} {buf amount}, (BufRead.fillBuf src).1 = .ok buf → buf ≠ [] →
      amount ≤ buf.length → count (BufRead.consume amount src) ≤ count src)
    (total : Nat) (src : σ) (dest : Writer) : count (go total src dest).2.1 ≤ count src := by
  induction total, src, dest using go.induct with
  | case1 total src dest error src' filled interrupted ih =>
    rw [go_fill_error filled, if_pos interrupted]; exact ih.trans (countError filled)
  | case2 total src dest error src' filled interrupted =>
    rw [go_fill_error filled, if_neg interrupted]; exact countError filled
  | case3 total src dest src' filled =>
    rw [go_fill_end filled, (BufRead.fillBuf_ok filled).1]
  | case4 total src dest buf src' filled nonempty copied dest' wrote ih =>
    obtain ⟨rfl, all, -⟩ := consume_full_write filled wrote
    rw [go_write_full filled nonempty wrote]
    exact ih.trans (countConsume (congrArg Prod.fst filled) nonempty all.le)
  | case5 total src dest buf src' filled nonempty copied reason dest' wrote =>
    obtain ⟨same, -, -⟩ := BufRead.fillBuf_ok filled
    subst src'
    rw [go_write_partly filled nonempty wrote]
    exact countConsume (congrArg Prod.fst filled) nonempty (tryWriteAll_written wrote).1
  | case6 total src dest buf src' filled nonempty error dest' wrote =>
    rw [go_write_error filled nonempty wrote, (BufRead.fillBuf_ok filled).1]

theorem go_reliable (total : Nat) (src : σ) (dest : Writer) (quiet : BufRead.failures src = 0)
    (reliable : dest.Reliable) :
    (go total src dest).1 = .full (total + (BufRead.rest src).length) ∧ (go total src dest).2.2.Reliable := by
  induction total, src, dest using go.induct with
  | case1 total src dest error src' filled
  | case2 total src dest error src' filled =>
    have := (BufRead.fillBuf_error filled).2; omega
  | case3 total src dest src' filled =>
    rw [go_fill_end filled]
    simpa [(BufRead.fillBuf_ok filled).2.2 rfl] using reliable
  | case4 total src dest buf src' filled nonempty copied dest' wrote ih =>
    obtain ⟨rfl, -, within, -, -, dropped, fewer⟩ := consume_full_write filled wrote
    rw [go_write_full filled nonempty wrote]
    obtain ⟨full, reliable'⟩ := ih (by omega) (tryWriteAll_reliable reliable wrote).2
    exact ⟨by rw [full, dropped, List.length_drop]; congr 1; omega, reliable'⟩
  | case5 total src dest buf src' filled nonempty copied reason dest' wrote
  | case6 total src dest buf src' filled nonempty error dest' wrote =>
    cases (tryWriteAll_reliable reliable wrote).1

end tryCopyBuf

section

variable {σ : Type} [BufRead σ]

/-- The copy contract: the writer received a prefix of what `src` had left, the same prefix
left `src`, and the result reports its length. -/
def Copied (src : σ) (dest : Writer) (run : SaveResult Nat Nat × σ × Writer) : Prop :=
  run.1.progress ≤ (BufRead.rest src).length ∧
    run.2.2.written = dest.written ++ (BufRead.rest src).take run.1.progress ∧
    BufRead.rest run.2.1 = (BufRead.rest src).drop run.1.progress

/-- `try_copy_buf` keeps the copy contract; it reports `Full` only at the end of `src`, and
`Partial` only for an I/O error. -/
theorem tryCopyBuf_spec (src : σ) (dest : Writer) :
    Copied src dest (tryCopyBuf src dest) ∧
      (∀ n, (tryCopyBuf src dest).1 = .full n → BufRead.rest (tryCopyBuf src dest).2.1 = []) ∧
      (∀ n reason, (tryCopyBuf src dest).1 = .partly n reason → ∃ error, reason = .ioError error) := by
  obtain ⟨copied, bounded, progress, written, rest, -, full, partly⟩ :=
    tryCopyBuf.go_spec BufRead.rest (fun filled => (BufRead.fillBuf_error filled).1)
      (fun filled _ within => (BufRead.consume_rest filled within).1) 0 src dest
  rw [Nat.zero_add] at progress
  exact ⟨⟨progress ▸ bounded, progress ▸ written, progress ▸ rest⟩, full, partly⟩

/-- Through `Take`, the inner reader loses exactly the bytes copied, and gains no failures. -/
theorem tryCopyBuf_take (src : σ) (limit : Nat) (dest : Writer) :
    BufRead.rest (tryCopyBuf (Take.mk src limit) dest).2.1.inner =
        (BufRead.rest src).drop (tryCopyBuf (Take.mk src limit) dest).1.progress ∧
      BufRead.failures (tryCopyBuf (Take.mk src limit) dest).2.1.inner ≤ BufRead.failures src := by
  obtain ⟨copied, -, progress, -, -, view, -, -⟩ :=
    tryCopyBuf.go_spec (fun take : Take σ => BufRead.rest take.inner) Take.inner_rest_error
      (fun filled nonempty within => (Take.inner_rest_consume filled nonempty within).1)
      0 ⟨src, limit⟩ dest
  rw [Nat.zero_add] at progress
  refine ⟨progress ▸ view, ?_⟩
  exact tryCopyBuf.go_mono (fun take : Take σ => BufRead.failures take.inner)
    (fun filled => (Take.inner_failures_error filled).le)
    (fun filled nonempty within => (Take.inner_rest_consume filled nonempty within).2) 0 ⟨src, limit⟩ dest

end


/-- `try_copy_limited`: copy at most `limit` bytes, then peek whether `src` has more. -/
def tryCopyLimited {σ : Type} [BufRead σ] (src : σ) (dest : Writer) (limit : Nat) :
    SaveResult Nat Nat × σ × Writer :=
  match tryCopyBuf (Take.mk src limit) dest with
  | (.full copied, taken, dest') =>
    match BufRead.fillBuf taken.inner with
    | (.ok buf, src') => (if buf = [] then .full copied else .partly copied .sizeLimit, src', dest')
    | (.error error, src') => (.partly copied (.ioError error), src', dest')
  | (other, taken, dest') => (other, taken.inner, dest')

section

variable {σ : Type} [BufRead σ]

/-- After a `Full` copy through `Take`, `try_copy_limited` peeks at the inner reader: it hands
on the writer, keeps what the peek left, and reports the same count, `Full` only at the end of
the inner reader, `SizeLimit` only with more left, and otherwise the peek's failure. -/
theorem tryCopyLimited_peek {src : σ} {dest dest' : Writer} {limit copied : Nat} {taken : Take σ}
    (run : tryCopyBuf (Take.mk src limit) dest = (.full copied, taken, dest')) :
    (tryCopyLimited src dest limit).2.2 = dest' ∧
      BufRead.rest (tryCopyLimited src dest limit).2.1 = BufRead.rest taken.inner ∧
      BufRead.failures (tryCopyLimited src dest limit).2.1 ≤ BufRead.failures taken.inner ∧
      ((tryCopyLimited src dest limit).1 = .full copied ∧ BufRead.rest taken.inner = [] ∨
        (tryCopyLimited src dest limit).1 = .partly copied .sizeLimit ∧ BufRead.rest taken.inner ≠ [] ∨
        ∃ error, (tryCopyLimited src dest limit).1 = .partly copied (.ioError error) ∧
          0 < BufRead.failures taken.inner) := by
  unfold tryCopyLimited
  rw [run]
  dsimp only
  rcases peek : BufRead.fillBuf taken.inner with ⟨_ | buf, src'⟩ <;> dsimp only
  · obtain ⟨unchanged, failed⟩ := BufRead.fillBuf_error peek
    exact ⟨rfl, unchanged, failed.le, .inr (.inr ⟨_, rfl, by omega⟩)⟩
  · obtain ⟨rfl, prefix_, ended⟩ := BufRead.fillBuf_ok peek
    refine ⟨rfl, rfl, le_rfl, ?_⟩
    by_cases empty : buf = []
    · exact .inl ⟨if_pos empty, ended empty⟩
    · exact .inr (.inl ⟨if_neg empty, fun none => empty (List.prefix_nil.mp (none ▸ prefix_))⟩)

/-- A copy through `Take` that stops short is what `try_copy_limited` reports. -/
theorem tryCopyLimited_stopped {src : σ} {dest dest' : Writer} {limit : Nat} {taken : Take σ}
    {result : SaveResult Nat Nat} (run : tryCopyBuf (Take.mk src limit) dest = (result, taken, dest'))
    (stopped : ∀ copied, result ≠ .full copied) :
    tryCopyLimited src dest limit = (result, taken.inner, dest') := by
  unfold tryCopyLimited
  rw [run]
  cases result with
  | full copied => exact absurd rfl (stopped copied)
  | partly | error => rfl

/-- `try_copy_limited` keeps the copy contract within `limit`; it reports `Full` only at the
end of `src`, and `SizeLimit` only with exactly `limit` bytes copied and more left in `src`. -/
theorem tryCopyLimited_spec (src : σ) (dest : Writer) (limit : Nat) :
    Copied src dest (tryCopyLimited src dest limit) ∧
      (tryCopyLimited src dest limit).1.progress ≤ limit ∧
      (∀ n, (tryCopyLimited src dest limit).1 = .full n →
        BufRead.rest (tryCopyLimited src dest limit).2.1 = []) ∧
      (∀ n, (tryCopyLimited src dest limit).1 = .partly n .sizeLimit →
        n = limit ∧ BufRead.rest (tryCopyLimited src dest limit).2.1 ≠ []) ∧
      (∀ n reason, (tryCopyLimited src dest limit).1 = .partly n reason →
        reason = .sizeLimit ∨ ∃ error, reason = .ioError error) := by
  obtain ⟨⟨bounded, written, rest⟩, full, partly⟩ := tryCopyBuf_spec (Take.mk src limit) dest
  have innerRest := (tryCopyBuf_take src limit dest).1
  simp only [Take.bufRead_rest, List.length_take] at bounded written rest
  rw [List.take_take, Nat.min_eq_left (by omega)] at written
  rcases run : tryCopyBuf (Take.mk src limit) dest with ⟨_ | _ | _, taken, dest'⟩ <;>
    simp only [run, SaveResult.progress] at bounded written full partly innerRest rest
  · rename_i copied
    obtain ⟨sameDest, sameRest, -, outcome⟩ := tryCopyLimited_peek run
    have exhausted := full copied rfl
    rw [Take.bufRead_rest, rest, List.drop_eq_nil_iff, List.length_take] at exhausted
    have progress : (tryCopyLimited src dest limit).1.progress = copied := by
      rcases outcome with ⟨ok, -⟩ | ⟨ok, -⟩ | ⟨_, ok, -⟩ <;> rw [ok] <;> rfl
    refine ⟨⟨by omega, by rw [sameDest, progress, written], by rw [sameRest, progress, innerRest]⟩,
      by omega, ?_⟩
    rw [sameRest]
    rcases outcome with ⟨ok, ended⟩ | ⟨ok, more⟩ | ⟨error, ok, -⟩ <;> rw [ok]
    · exact ⟨fun _ _ => ended, by simp, by simp⟩
    · rw [innerRest, Ne, List.drop_eq_nil_iff] at more
      refine ⟨by simp, fun n same => ?_, by simp⟩
      cases same
      exact ⟨by omega, by rw [innerRest, Ne, List.drop_eq_nil_iff]; omega⟩
    · exact ⟨by simp, by simp, fun n reason same => by cases same; exact .inr ⟨error, rfl⟩⟩
  all_goals rw [tryCopyLimited_stopped run (by simp)]
  · rename_i copied reason
    obtain ⟨error, rfl⟩ := partly copied reason rfl
    exact ⟨⟨show copied ≤ _ by omega, written, innerRest⟩, show copied ≤ limit by omega, by simp,
      by simp, by simp⟩
  · exact ⟨⟨Nat.zero_le _, written, innerRest⟩, Nat.zero_le _, by simp, by simp, by simp⟩

theorem tryCopyBuf_failures (src : σ) (dest : Writer) :
    BufRead.failures (tryCopyBuf src dest).2.1 ≤ BufRead.failures src :=
  tryCopyBuf.go_mono BufRead.failures (fun filled => (BufRead.fillBuf_error filled).2.le)
    (fun filled _ within => (BufRead.consume_rest filled within).2) 0 src dest

theorem tryCopyLimited_failures (src : σ) (dest : Writer) (limit : Nat) :
    BufRead.failures (tryCopyLimited src dest limit).2.1 ≤ BufRead.failures src := by
  have fewer := (tryCopyBuf_take src limit dest).2
  rcases run : tryCopyBuf (Take.mk src limit) dest with ⟨_ | _ | _, taken, dest'⟩ <;>
    simp only [run] at fewer
  · exact (tryCopyLimited_peek run).2.2.1.trans fewer
  all_goals rw [tryCopyLimited_stopped run (by simp)]; exact fewer

/-- With no failure to come and a writer that takes bytes on every call, `try_copy_buf` copies
everything. -/
theorem tryCopyBuf_reliable (src : σ) {dest : Writer} (quiet : BufRead.failures src = 0)
    (reliable : dest.Reliable) :
    (tryCopyBuf src dest).1 = .full (BufRead.rest src).length ∧ (tryCopyBuf src dest).2.2.Reliable := by
  simpa using tryCopyBuf.go_reliable 0 src dest quiet reliable

/-- With no failure to come, `try_copy_limited` copies all of a body that fits and reports
`SizeLimit` after exactly `limit` bytes of one that does not. -/
theorem tryCopyLimited_reliable (src : σ) {dest : Writer} (limit : Nat)
    (quiet : BufRead.failures src = 0) (reliable : dest.Reliable) :
    (tryCopyLimited src dest limit).1 = if (BufRead.rest src).length ≤ limit
      then .full (BufRead.rest src).length else .partly limit .sizeLimit := by
  have takeQuiet : BufRead.failures (Take.mk src limit) = 0 := by simp [quiet]
  have full := (tryCopyBuf_reliable (Take.mk src limit) takeQuiet reliable).1
  obtain ⟨innerRest, innerQuiet⟩ := tryCopyBuf_take src limit dest
  rcases run : tryCopyBuf (Take.mk src limit) dest with ⟨result, taken, dest'⟩
  simp only [run, Take.bufRead_rest, List.length_take] at full innerRest innerQuiet
  subst full
  simp only [SaveResult.progress] at innerRest
  obtain ⟨-, -, -, ⟨ok, ended⟩ | ⟨ok, more⟩ | ⟨error, -, failed⟩⟩ := tryCopyLimited_peek run
  · rw [innerRest, List.drop_eq_nil_iff] at ended
    rw [ok, if_pos (by omega)]
    congr 1; omega
  · rw [innerRest, Ne, List.drop_eq_nil_iff] at more
    rw [ok, if_neg (by omega)]
    congr 1; omega
  · omega

end

end Multipart
