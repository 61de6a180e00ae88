import Mathlib.Tactic.NormNum
import TilingConfig.Proofs.Lifecycle
import TilingConfig.Proofs.Number.Rounding
import TilingConfig.Proofs.Snapshot.Success

/-!
# The master-area factor

A factor is compared with its bounds before it is narrowed to the stored format. What is
between the bounds stays strictly between them when it is narrowed, since narrowing keeps
the order and takes both bounds inside. Infinities are refused; NaN is comparable with
neither bound and is the one factor that passes without being between them.
-/

namespace TilingConfig

open TilingConfig.Files TilingConfig.Number

/-! ## The bounds, before and after narrowing -/

/-- The number is finite and lies strictly between two bounds. -/
def Number.Binary32.Between (x : Binary32) (low high : ℚ) : Prop :=
  ∃ q, x.reading.value? = some q ∧ low < q ∧ q < high

theorem Number.Binary32.Between.reading_ne_nan {x : Binary32} {low high : ℚ}
    (h : x.Between low high) : x.reading ≠ .nan := by
  obtain ⟨q, hq, -, -⟩ := h
  intro hnan
  rw [hnan] at hq
  cases hq

theorem Number.Binary64.reading_narrow_of_nan {x : Binary64} (h : x.reading = .nan) :
    x.narrow.reading = .nan := by
  rw [Binary32.reading, Binary64.narrow, h]
  decide

theorem reading_minMasterFactor :
    minMasterFactor.reading = .finite false 7205759403792794 (-57) := by decide

theorem reading_maxMasterFactor :
    maxMasterFactor.reading = .finite false 8556839292003942 (-53) := by decide

/-- The lower bound is not below one twentieth, though it is the nearest number to it. -/
theorem le_minMasterFactor :
    ∃ q : ℚ, minMasterFactor.reading.value? = some q ∧ 5 / 100 ≤ q := by
  rw [reading_minMasterFactor]
  refine ⟨_, rfl, ?_⟩
  norm_num

/-- The upper bound is not above nineteen twentieths. -/
theorem maxMasterFactor_le :
    ∃ q : ℚ, maxMasterFactor.reading.value? = some q ∧ q ≤ 95 / 100 := by
  rw [reading_maxMasterFactor]
  refine ⟨_, rfl, ?_⟩
  norm_num

theorem Number.Format.binade_single : Format.single.binade = 8388608 := by decide

theorem Number.Format.minExponent_single : Format.single.minExponent = -149 := by decide

/-- In the narrow format the nearest number to one twentieth is above it. -/
theorem lt_magnitude_low :
    (1 / 20 : ℚ) < Format.single.magnitude (Format.single.roundMagnitude 5 100) := by
  have hbits : Format.single.roundMagnitude 5 100 = 0x3D4CCCCD := by decide
  rw [hbits, Format.magnitude, Format.binade_single, Format.minExponent_single]
  norm_num

/-- The nearest number to nineteen twentieths is below it. -/
theorem magnitude_high_lt :
    Format.single.magnitude (Format.single.roundMagnitude 95 100) < (19 / 20 : ℚ) := by
  have hbits : Format.single.roundMagnitude 95 100 = 0x3F733333 := by decide
  rw [hbits, Format.magnitude, Format.binade_single, Format.minExponent_single]
  norm_num

/-- The guard on a factor: neither at or below the lower bound nor at or above the upper one. -/
def Inside (x : Binary64) : Prop := x.le minMasterFactor = false ∧ maxMasterFactor.le x = false

/-- What the guard lets pass is NaN or a finite number. -/
theorem Inside.exists_value {x : Binary64} (h : Inside x) (hnan : x.reading ≠ .nan) :
    ∃ p, x.reading.value? = some p := by
  obtain ⟨hlow, hhigh⟩ := h
  rw [Binary64.le, reading_minMasterFactor] at hlow
  rw [Binary64.le, reading_maxMasterFactor] at hhigh
  cases hreading : x.reading with
  | nan => exact absurd hreading hnan
  | infinity negative =>
    rw [hreading] at hlow hhigh
    cases negative with
    | true => cases hlow
    | false => cases hhigh
  | finite negative significand exponent => exact ⟨_, rfl⟩

/-- A number that passes the guard is strictly between the bounds after narrowing. -/
theorem Inside.between_narrow {x : Binary64} (h : Inside x) (hnan : x.reading ≠ .nan) :
    x.narrow.Between (1 / 20) (19 / 20) := by
  obtain ⟨low, hlow, hlowBound⟩ := le_minMasterFactor
  obtain ⟨high, hhigh, hhighBound⟩ := maxMasterFactor_le
  obtain ⟨p, hp⟩ := h.exists_value hnan
  have hnotLow : ¬ p ≤ low := by
    rw [← Reading.le_iff_of_value? hp hlow]
    exact Bool.eq_false_iff.1 h.1
  have hnotHigh : ¬ high ≤ p := by
    rw [← Reading.le_iff_of_value? hhigh hp]
    exact Bool.eq_false_iff.1 h.2
  obtain ⟨q, hq, hqLow, hqHigh⟩ := Binary64.narrow_between hp (a := 5) (b := 100) (c := 95)
    (d := 100) (by decide) (by decide) (by decide)
    (by push_cast; exact hlowBound.trans (not_le.1 hnotLow).le)
    (by push_cast; exact (not_le.1 hnotHigh).le.trans hhighBound) (by decide)
  exact ⟨q, hq, lt_magnitude_low.trans_le hqLow, hqHigh.trans_lt magnitude_high_lt⟩

/-! ## The factor of a build -/

/-- The layout section gives a factor. -/
def GivesFactor (root : Group) (x : Binary64) : Prop :=
  ∃ group : Group, root.get? Section.layout.name = some (.group group) ∧
    (Entry.mk group .layout none).float? "mfact" = .ok (some x)

/-- The layout section gives NaN as its factor. -/
def SetsNaN (root : Group) : Prop :=
  ∃ (group : Group) (x : Binary64), root.get? Section.layout.name = some (.group group) ∧
    group.get? "mfact" = some (.float x) ∧ x.reading = .nan

theorem givesFactor_iff {root group : Group} {x : Binary64}
    (hgroup : root.get? Section.layout.name = some (.group group)) :
    GivesFactor root x ↔ (Entry.mk group .layout none).float? "mfact" = .ok (some x) := by
  constructor
  · rintro ⟨group', hgroup', hfloat⟩
    rw [hgroup] at hgroup'
    cases hgroup'
    exact hfloat
  · exact fun hfloat => ⟨group, hgroup, hfloat⟩

theorem GivesFactor.unique {root : Group} {x y : Binary64} (hx : GivesFactor root x)
    (hy : GivesFactor root y) : x = y := by
  obtain ⟨group, hgroup, hfloat⟩ := hx
  rw [givesFactor_iff hgroup, hfloat] at hy
  exact Option.some.inj (Except.ok.inj hy)

/-- A factor that is given as a whole number is not NaN. -/
theorem setsNaN_iff {root : Group} : SetsNaN root ↔ ∃ x, GivesFactor root x ∧ x.reading = .nan := by
  constructor
  · rintro ⟨group, x, hgroup, hx, hnan⟩
    exact ⟨x, ⟨group, hgroup, Entry.float?_eq_some_iff.2 (Or.inl hx)⟩, hnan⟩
  · rintro ⟨x, ⟨group, hgroup, hfloat⟩, hnan⟩
    rcases Entry.float?_eq_some_iff.1 hfloat with hx | ⟨i, -, rfl⟩
    · exact ⟨group, x, hgroup, hx, hnan⟩
    · exact absurd hnan (Binary64.reading_ofInt_ne_nan i.toInt)

/-- A factor that is given passes the guard and is stored narrowed. -/
theorem masterFactor?_eq_ok_iff {entry : Entry} {result : Option Binary32} :
    masterFactor? entry = .ok result ↔
      entry.float? "mfact" = .ok none ∧ result = none ∨
        ∃ x, entry.float? "mfact" = .ok (some x) ∧ Inside x ∧ result = some x.narrow := by
  rw [masterFactor?, bind_eq_ok_iff]
  constructor
  · rintro ⟨_ | x, hfloat, hresult⟩
    · exact Or.inl ⟨hfloat, (Except.ok.inj hresult).symm⟩
    · dsimp only at hresult
      split at hresult
      · cases hresult
      · next hguard =>
        rw [Bool.or_eq_true, not_or, Bool.not_eq_true, Bool.not_eq_true] at hguard
        exact Or.inr ⟨x, hfloat, hguard, (Except.ok.inj hresult).symm⟩
  · rintro (⟨hfloat, rfl⟩ | ⟨x, hfloat, ⟨hlow, hhigh⟩, rfl⟩)
    · exact ⟨none, hfloat, rfl⟩
    · exact ⟨some x, hfloat, by simp only [hlow, hhigh, Bool.or_self, Bool.false_eq_true, if_false]⟩

/-- The stored factor is the default one if none is given. -/
theorem buildLayout_mfact_cases {root : Group} {layout : LayoutSettings}
    (h : buildLayout root = .ok layout) :
    (∀ x, ¬ GivesFactor root x) ∧ layout.mfact = Default.layoutSettings.mfact ∨
      ∃ x, GivesFactor root x ∧ Inside x ∧ layout.mfact = x.narrow := by
  rw [buildLayout, bind_eq_ok_iff] at h
  obtain ⟨_ | entry, hentry, hlayout⟩ := h
  · obtain rfl := Except.ok.inj hlayout
    refine Or.inl ⟨?_, rfl⟩
    rintro x ⟨group, hgroup, -⟩
    have hsome := onlySection?_eq_some_iff.2 ⟨group, hgroup, rfl⟩
    rw [hentry] at hsome
    cases hsome
  · obtain ⟨group, hgroup, rfl⟩ := onlySection?_eq_some_iff.1 hentry
    simp only [layoutSettingsOf, bind_eq_ok_iff] at hlayout
    obtain ⟨mfact, hmfact, _, -, _, -, _, -, _, -, hlayout⟩ := hlayout
    obtain rfl := Except.ok.inj hlayout
    rcases masterFactor?_eq_ok_iff.1 hmfact with ⟨hfloat, rfl⟩ | ⟨x, hfloat, hx, rfl⟩
    · refine Or.inl ⟨fun x hx => ?_, rfl⟩
      rw [givesFactor_iff hgroup, hfloat] at hx
      cases hx
    · exact Or.inr ⟨x, ⟨group, hgroup, hfloat⟩, hx, rfl⟩

/-- The default factor is between the bounds. -/
theorem between_default : Default.layoutSettings.mfact.Between (1 / 20) (19 / 20) := by
  have hreading : Default.layoutSettings.mfact.reading = .finite false 9227469 (-24) := by
    decide
  rw [Binary32.Between, hreading]
  refine ⟨_, rfl, ?_, ?_⟩ <;> norm_num

/-- A snapshot's factor is between the bounds unless NaN is given for it. -/
theorem between_of_build {root : Group} {snapshot : Snapshot} (h : build root = .ok snapshot)
    (hnan : ¬ SetsNaN root) : snapshot.layout.mfact.Between (1 / 20) (19 / 20) := by
  obtain ⟨-, hlayout, -⟩ := build_eq_ok_iff.1 h
  rcases buildLayout_mfact_cases hlayout with ⟨-, hmfact⟩ | ⟨x, hgives, hx, hmfact⟩
  · rw [hmfact]
    exact between_default
  · rw [hmfact]
    exact hx.between_narrow fun hreading => hnan (setsNaN_iff.2 ⟨x, hgives, hreading⟩)

/-- A NaN that is given for the factor is stored. -/
theorem reading_mfact_of_setsNaN {root : Group} {snapshot : Snapshot}
    (h : build root = .ok snapshot) (hnan : SetsNaN root) :
    snapshot.layout.mfact.reading = .nan := by
  obtain ⟨-, hlayout, -⟩ := build_eq_ok_iff.1 h
  obtain ⟨x, hgives, hreading⟩ := setsNaN_iff.1 hnan
  rcases buildLayout_mfact_cases hlayout with ⟨hnone, -⟩ | ⟨y, hgives', -, hmfact⟩
  · exact absurd hgives (hnone x)
  · rw [hmfact, hgives'.unique hgives]
    exact Binary64.reading_narrow_of_nan hreading

section

variable [Parsers]

/-- The stored factor is strictly between its bounds exactly if the configuration does not give
NaN for it: in every build, and at any time in a life from the built-in configuration or from a
first load on. -/
theorem master_factor_between_iff {life : Lifecycle}
    (hlife : life = .standard ∨ ∃ view path, Lifecycle.ofFile view path = .ok life)
    (requests : List (View × Lifecycle.Request)) :
    let current := (life.run requests).snapshot
    (∀ root snapshot, build root = .ok snapshot →
        (snapshot.layout.mfact.Between (1 / 20) (19 / 20) ↔ ¬ SetsNaN root)) ∧
      (current.layout.mfact.Between (1 / 20) (19 / 20) ↔
        ∀ view path document, (Document.load view path).1 = .ok document →
          build document.root = .ok current → ¬ SetsNaN document.root) := by
  intro current
  have hbuilt : ∀ root snapshot, build root = .ok snapshot →
      (snapshot.layout.mfact.Between (1 / 20) (19 / 20) ↔ ¬ SetsNaN root) :=
    fun root snapshot h => ⟨fun hbetween hnan =>
      hbetween.reading_ne_nan (reading_mfact_of_setsNaN h hnan), between_of_build h⟩
  obtain ⟨past, hstart⟩ : ∃ past, Lifecycle.Starts life Default.snapshot past := by
    rcases hlife with rfl | ⟨view, path, hfile⟩
    · exact ⟨[], .standard⟩
    · exact Lifecycle.exists_starts_of_ofFile hfile _
  refine ⟨hbuilt, fun hbetween view path document _ hbuild => (hbuilt _ _ hbuild).1 hbetween, ?_⟩
  intro hnan
  rcases hstart.snapshot_run_cases requests with
    ⟨-, hfallback⟩ | ⟨view, path, document, hdocument, hbuild⟩
  · rw [show current = _ from hfallback]
    exact between_default
  · exact (hbuilt _ _ hbuild).2 (hnan view path document hdocument hbuild)

end

open scoped Parsers

/-- A factor just above the lower bound is loaded, and stays above it. -/
theorem master_factor_between_just_inside :
    let view : View := ⟨fun _ => .ok "layout:\n  mfact: 0.05000001\n", fun _ => true, fun _ => none⟩
    let life := Lifecycle.standard.run [(view, .load ⟨"main.yaml"⟩)]
    life.path? = some ⟨"main.yaml"⟩ ∧ life.snapshot.layout.mfact.Between (1 / 20) (19 / 20) := by
  intro view life
  have hpath : life.path? = some ⟨"main.yaml"⟩ := by decide +kernel
  have hreading : life.snapshot.layout.mfact.reading ≠ .nan := by decide +kernel
  refine ⟨hpath, (master_factor_between_iff (Or.inl rfl) [(view, .load ⟨"main.yaml"⟩)]).2.2 ?_⟩
  intro _ _ document _ hbuild hnan
  exact hreading (reading_mfact_of_setsNaN hbuild hnan)

/-- NaN that a file gives becomes the factor of the current snapshot, in both syntaxes. -/
theorem master_factor_nan_published :
    let yaml : View := ⟨fun _ => .ok "layout:\n  mfact: .nan\n", fun _ => true, fun _ => none⟩
    let toml : View := ⟨fun _ => .ok "[layout]\nmfact = nan\n", fun _ => true, fun _ => none⟩
    (∃ life, Lifecycle.ofFile yaml ⟨"main.yaml"⟩ = .ok life ∧
        ¬ life.snapshot.layout.mfact.Between (1 / 20) (19 / 20)) ∧
      (∃ life, Lifecycle.ofFile toml ⟨"main.toml"⟩ = .ok life ∧
        ¬ life.snapshot.layout.mfact.Between (1 / 20) (19 / 20)) ∧
      ∃ snapshot, build [("layout", .group [("mfact", .float .nan)])] = .ok snapshot ∧
        ¬ snapshot.layout.mfact.Between (1 / 20) (19 / 20) := by
  intro yaml toml
  let factor (life : Lifecycle) := life.snapshot.layout.mfact.reading
  have hyaml : (Lifecycle.ofFile yaml ⟨"main.yaml"⟩).toOption.map factor = some .nan := by
    decide +kernel
  have htoml : (Lifecycle.ofFile toml ⟨"main.toml"⟩).toOption.map factor = some .nan := by
    decide +kernel
  have hbuild : (build [("layout", .group [("mfact", .float .nan)])]).toOption.map
      (fun snapshot => snapshot.layout.mfact.reading) = some .nan := by decide +kernel
  simp only [Option.map_eq_some_iff, toOption_eq_some_iff] at hyaml htoml hbuild
  obtain ⟨life, hlife, hnan⟩ := hyaml
  obtain ⟨life', hlife', hnan'⟩ := htoml
  obtain ⟨snapshot, hsnapshot, hnan''⟩ := hbuild
  exact ⟨⟨life, hlife, fun h => h.reading_ne_nan hnan⟩,
    ⟨life', hlife', fun h => h.reading_ne_nan hnan'⟩,
    ⟨snapshot, hsnapshot, fun h => h.reading_ne_nan hnan''⟩⟩

end TilingConfig
