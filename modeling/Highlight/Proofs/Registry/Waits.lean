import Highlight.Settings
import Mathlib.Algebra.Order.Ring.Nat

/-!
# The waits between loads

A wait is the base, doubled after every failure, and cut off at the maximum.  On the way to the cut
the factor stops at the largest word and the product at the longest duration; of the two stops only
the first can be seen, and only at waits that have doubled thirty-one times.  `Duration` counts
durations as clocks do, in seconds and nanoseconds, and gives the same waits.
-/

namespace Highlight

/-- A duration in whole seconds and the nanoseconds that remain. -/
structure Duration where
  seconds : Nat
  nanos : Nat
  deriving DecidableEq, Repr

namespace Duration

def nanosPerSecond : Nat := 1000000000

/-- Seconds are words of 64 bits. -/
def largest : Duration := ⟨2 ^ 64 - 1, nanosPerSecond - 1⟩

def ofMillis (ms : Nat) : Duration := ⟨ms / 1000, ms % 1000 * 1000000⟩

/-- The duration so many times over.  The nanoseconds carry into the seconds, and where these
overflow the product is the longest duration. -/
def times (s : Duration) (n : Nat) : Duration :=
  let carried := s.nanos * n / nanosPerSecond
  if s.seconds * n < 2 ^ 64 ∧ s.seconds * n + carried < 2 ^ 64 then
    ⟨s.seconds * n + carried, s.nanos * n % nanosPerSecond⟩
  else largest

def shorter (s t : Duration) : Duration :=
  if s.seconds < t.seconds ∨ s.seconds = t.seconds ∧ s.nanos ≤ t.nanos then s else t

theorem shorter_ofMillis (m n : Nat) : (ofMillis m).shorter (ofMillis n) = ofMillis (min m n) := by
  unfold shorter
  split
  · rename_i h
    have hle : m ≤ n := by
      simp only [ofMillis] at h
      omega
    rw [Nat.min_eq_left hle]
  · rename_i h
    have hle : n ≤ m := by
      simp only [ofMillis] at h
      omega
    rw [Nat.min_eq_right hle]

/-- A product of milliseconds overflows in its seconds, or is a whole number of milliseconds. -/
theorem times_ofMillis (ms n : Nat) :
    (ofMillis ms).times n =
      if ms * n < 2 ^ 64 * 1000 then ofMillis (ms * n) else largest := by
  have hcarried : ms % 1000 * 1000000 * n / nanosPerSecond = ms % 1000 * n / 1000 := by
    rw [Nat.mul_right_comm, show nanosPerSecond = 1000 * 1000000 from rfl]
    exact Nat.mul_div_mul_right _ _ (by omega)
  have hrest : ms % 1000 * 1000000 * n % nanosPerSecond = ms % 1000 * n % 1000 * 1000000 := by
    rw [Nat.mul_right_comm, show nanosPerSecond = 1000 * 1000000 from rfl]
    exact Nat.mul_mod_mul_right _ _ _
  have hsplit : ms * n = ms / 1000 * n * 1000 + ms % 1000 * n := by
    rw [Nat.mul_right_comm, ← Nat.add_mul, Nat.mul_comm (ms / 1000), Nat.div_add_mod]
  simp only [times, ofMillis, hcarried, hrest, hsplit]
  generalize ms / 1000 * n = seconds, ms % 1000 * n = millis
  by_cases h : seconds * 1000 + millis < 2 ^ 64 * 1000
  · have hfits : seconds < 2 ^ 64 ∧ seconds + millis / 1000 < 2 ^ 64 := by omega
    rw [if_pos h, if_pos hfits, Duration.mk.injEq]
    omega
  · rw [if_neg h, if_neg (by omega)]

theorem shorter_largest {ms : Nat} (h : ms < 2 ^ 64) :
    largest.shorter (ofMillis ms) = ofMillis ms := by
  have hlong : ¬ (2 ^ 64 - 1 < ms / 1000 ∨
      2 ^ 64 - 1 = ms / 1000 ∧ nanosPerSecond - 1 ≤ ms % 1000 * 1000000) := by
    omega
  exact if_neg hlong

end Duration

namespace RetryPolicy

/-- The base and the maximum are words of 64 bits. -/
def InWords (p : RetryPolicy) : Prop := p.backoffBase < 2 ^ 64 ∧ p.backoffMax < 2 ^ 64

variable {p : RetryPolicy} {f g : Nat}

/-! ### The factor -/

theorem factor_eq (f : Nat) : factor f = min (2 ^ (f - 1)) (2 ^ 32 - 1) := by
  unfold factor
  split
  · rfl
  · rename_i h
    have hpow : 2 ^ 32 ≤ 2 ^ (f - 1) := Nat.pow_le_pow_right (by omega) (by omega)
    have hword : maxFactor = 2 ^ 32 - 1 := rfl
    omega

theorem factor_mono (h : f ≤ g) : factor f ≤ factor g := by
  have hpow : 2 ^ (f - 1) ≤ 2 ^ (g - 1) := Nat.pow_le_pow_right (by omega) (by omega)
  rw [factor_eq, factor_eq]
  omega

theorem factor_succ (hpos : 1 ≤ f) (hlt : f < 32) : factor (f + 1) = 2 * factor f := by
  have hdouble : 2 ^ (f + 1 - 1) = 2 * 2 ^ (f - 1) := by
    rw [← Nat.pow_succ']
    congr 1
    omega
  have hpow : 2 ^ (f - 1) ≤ 2 ^ 30 := Nat.pow_le_pow_right (by omega) (by omega)
  rw [factor_eq, factor_eq, hdouble]
  omega

/-! ### The wait -/

/-- The maximum is a word, so no wait comes near the longest duration. -/
theorem backoff_eq (hmax : p.backoffMax < 2 ^ 64) (hpos : 1 ≤ f) :
    p.backoff f = min (p.backoffBase * factor f) p.backoffMax := by
  have hlong : p.backoffMax ≤ maxDuration := by
    unfold maxDuration
    omega
  rw [backoff, if_neg (by omega), Nat.min_assoc, Nat.min_eq_right hlong]

theorem backoff_le_backoffMax (p : RetryPolicy) (f : Nat) : p.backoff f ≤ p.backoffMax := by
  unfold backoff
  split
  · exact Nat.zero_le _
  · exact Nat.min_le_right _ _

theorem backoff_mono (hmax : p.backoffMax < 2 ^ 64) (hpos : 1 ≤ f) (h : f ≤ g) :
    p.backoff f ≤ p.backoff g := by
  have hle : p.backoffBase * factor f ≤ p.backoffBase * factor g :=
    Nat.mul_le_mul_left _ (factor_mono h)
  rw [backoff_eq hmax hpos, backoff_eq hmax (Nat.le_trans hpos h)]
  omega

theorem backoff_succ (hmax : p.backoffMax < 2 ^ 64) (hpos : 1 ≤ f) (hlt : f < 32) :
    p.backoff (f + 1) = min (2 * p.backoff f) p.backoffMax := by
  have hdouble : p.backoffBase * factor (f + 1) = 2 * (p.backoffBase * factor f) := by
    rw [factor_succ hpos hlt, Nat.mul_left_comm]
  rw [backoff_eq hmax hpos, backoff_eq hmax (Nat.le_add_left 1 f), hdouble]
  omega

theorem backoff_one (hmax : p.backoffMax < 2 ^ 64) (hle : p.backoffBase ≤ p.backoffMax) :
    p.backoff 1 = p.backoffBase := by
  have hfactor : factor 1 = 1 := rfl
  rw [backoff_eq hmax (Nat.le_refl 1), hfactor, Nat.mul_one, Nat.min_eq_left hle]

theorem backoffBase_le_backoff (hmax : p.backoffMax < 2 ^ 64) (hle : p.backoffBase ≤ p.backoffMax)
    (hpos : 1 ≤ f) : p.backoffBase ≤ p.backoff f :=
  calc p.backoffBase
    _ = p.backoff 1 := (backoff_one hmax hle).symm
    _ ≤ p.backoff f := backoff_mono hmax (Nat.le_refl 1) hpos

/-- Counted in seconds and nanoseconds the wait is the same, whether the product overflows or
not. -/
theorem shorter_times_eq_backoff (hmax : p.backoffMax < 2 ^ 64) (hpos : 1 ≤ f) :
    ((Duration.ofMillis p.backoffBase).times (factor f)).shorter (.ofMillis p.backoffMax) =
      .ofMillis (p.backoff f) := by
  rw [backoff_eq hmax hpos, Duration.times_ofMillis]
  split
  · exact Duration.shorter_ofMillis _ _
  · rw [Duration.shorter_largest hmax, Nat.min_eq_right (by omega)]

end RetryPolicy

namespace Settings

theorem fault?_eq_none_iff (s : Settings) :
    s.fault? = none ↔
      s.codeBlockType.isEmpty = false ∧ s.limits.maxTokens ≠ 0 ∧ s.retry.maxAttempts ≠ 0 ∧
        s.retry.backoffBase ≤ s.retry.backoffMax := by
  unfold fault?
  split
  · simp_all
  · split
    · simp_all
    · split
      · simp_all
      · split
        · simp_all
        · simp_all

theorem validate_eq_ok_iff {s s' : Settings} : s.validate = .ok s' ↔ s' = s ∧ s.fault? = none := by
  unfold validate
  cases s.fault? with
  | some why => simp
  | none => simp [eq_comm]

theorem backoffBase_le_of_validate {s s' : Settings} (h : s.validate = .ok s') :
    s'.retry.backoffBase ≤ s'.retry.backoffMax := by
  obtain ⟨rfl, hfault⟩ := validate_eq_ok_iff.mp h
  exact ((fault?_eq_none_iff s').mp hfault).2.2.2

/-! ### Settings that are read -/

theorem exists_of_read {α β ε : Type} {read : Except ε α} {update : α → β} {b : β}
    (h : (do return update (← read)) = Except.ok b) : ∃ a, read = .ok a ∧ update a = b := by
  cases read with
  | error e => simp [bind, Except.bind] at h
  | ok a => exact ⟨a, rfl, by simpa [bind, Except.bind, pure, Except.pure] using h⟩

theorem foldlM_invariant {α σ ε : Type} {P : σ → Prop} {f : σ → α → Except ε σ}
    (hf : ∀ {s a s'}, P s → f s a = .ok s' → P s') {xs : List α} {s s' : σ} (h : P s)
    (hfold : xs.foldlM f s = .ok s') : P s' := by
  induction xs generalizing s with
  | nil =>
      obtain rfl : s = s' := by simpa [pure, Except.pure] using hfold
      exact h
  | cons x xs ih =>
      rw [List.foldlM_cons] at hfold
      cases hx : f s x with
      | error e => simp [hx, bind, Except.bind] at hfold
      | ok next =>
          rw [hx] at hfold
          exact ih (hf h hx) hfold

theorem le_of_natUpTo {bound n : Nat} {v : Toml.Value} (h : natUpTo bound v = .ok n) :
    n ≤ bound := by
  unfold natUpTo at h
  split at h
  · split at h
    · rename_i hrange
      simp only [Bool.and_eq_true, decide_eq_true_eq] at hrange
      simp only [Except.ok.injEq] at h
      omega
    · simp at h
  · simp at h

theorem inWords_setRetry {p p' : RetryPolicy} {key : String} {v : Toml.Value} (h : p.InWords)
    (hset : setRetry p key v = .ok p') : p'.InWords := by
  unfold setRetry at hset
  split at hset
  · obtain ⟨n, -, rfl⟩ := exists_of_read hset
    exact h
  · obtain ⟨n, hn, rfl⟩ := exists_of_read hset
    exact ⟨Nat.lt_succ_of_le (le_of_natUpTo hn), h.2⟩
  · obtain ⟨n, hn, rfl⟩ := exists_of_read hset
    exact ⟨h.1, Nat.lt_succ_of_le (le_of_natUpTo hn)⟩
  · simp at hset

theorem inWords_retryOf {p p' : RetryPolicy} {v : Toml.Value} (h : p.InWords)
    (hof : retryOf p v = .ok p') : p'.InWords := by
  unfold retryOf at hof
  split at hof
  · exact foldlM_invariant inWords_setRetry h hof
  · exact foldlM_invariant inWords_setRetry h hof
  · simp at hof

theorem inWords_set {s s' : Settings} {key : String} {v : Toml.Value} (h : s.retry.InWords)
    (hset : s.set key v = .ok s') : s'.retry.InWords := by
  unfold set at hset
  split at hset
  · obtain ⟨text, -, rfl⟩ := exists_of_read hset
    exact h
  · obtain ⟨n, -, rfl⟩ := exists_of_read hset
    exact h
  · obtain ⟨n, -, rfl⟩ := exists_of_read hset
    exact h
  · obtain ⟨n, -, rfl⟩ := exists_of_read hset
    exact h
  · obtain ⟨p, hp, rfl⟩ := exists_of_read hset
    exact inWords_retryOf h hp
  · simp at hset

/-- Settings that a text gives make sense, and their waits are words. -/
theorem of_ofToml {text : String} {s : Settings} (h : ofToml text = .ok s) :
    s.validate = .ok s ∧ s.retry.InWords := by
  unfold ofToml at h
  cases ht : Toml.ofString text with
  | error e => simp [ht] at h
  | ok es =>
      cases he : ofEntries es with
      | error e => simp [ht, he] at h
      | ok read =>
          simp only [ht, he] at h
          obtain rfl := (validate_eq_ok_iff.mp h).1
          have hdefault : ({} : Settings).retry.InWords := ⟨by decide, by decide⟩
          refine ⟨h, ?_⟩
          exact foldlM_invariant (P := fun s => s.retry.InWords) inWords_set hdefault he

end Settings

namespace RetryPolicy

/-- There is no wait without a failure.  After failures the wait is the base times a power of two,
which stops at the largest word, and at most the maximum; nothing else shows that durations are
bounded.  So it does not fall, it doubles until there are thirty-two failures or the maximum is
reached, and it stays at the maximum.  If settings with this policy are let pass, the first wait is
the base, and no later one is less. -/
theorem waits_double_up_to_the_cap (p : RetryPolicy) (hwords : p.InWords) :
    p.backoff 0 = 0 ∧
    (∀ f, 1 ≤ f →
      p.backoff f = min (p.backoffBase * min (2 ^ (f - 1)) (2 ^ 32 - 1)) p.backoffMax ∧
      ((Duration.ofMillis p.backoffBase).times (min (2 ^ (f - 1)) (2 ^ 32 - 1))).shorter
          (.ofMillis p.backoffMax) = .ofMillis (p.backoff f)) ∧
    (∀ f g, 1 ≤ f → f ≤ g → p.backoff f ≤ p.backoff g) ∧
    (∀ f, p.backoff f ≤ p.backoffMax) ∧
    (∀ f, 1 ≤ f → f < 32 → p.backoff (f + 1) = min (2 * p.backoff f) p.backoffMax) ∧
    (∀ f g, 1 ≤ f → f ≤ g → p.backoff f = p.backoffMax → p.backoff g = p.backoffMax) ∧
    ∀ s : Settings, s.retry = p → s.validate = .ok s →
      p.backoff 1 = p.backoffBase ∧
        ∀ f, 1 ≤ f → p.backoffBase ≤ p.backoff f ∧ p.backoff f ≤ p.backoffMax := by
  obtain ⟨-, hmax⟩ := hwords
  refine ⟨rfl, ?_, ?_, p.backoff_le_backoffMax, ?_, ?_, ?_⟩
  · intro f hpos
    rw [← factor_eq]
    exact ⟨backoff_eq hmax hpos, shorter_times_eq_backoff hmax hpos⟩
  · exact fun f g hpos hle => backoff_mono hmax hpos hle
  · exact fun f hpos hlt => backoff_succ hmax hpos hlt
  · intro f g hpos hle hreached
    apply Nat.le_antisymm (p.backoff_le_backoffMax g)
    exact hreached ▸ backoff_mono hmax hpos hle
  · rintro s rfl hvalid
    have hbase := Settings.backoffBase_le_of_validate hvalid
    refine ⟨backoff_one hmax hbase, ?_⟩
    exact fun f hpos => ⟨backoffBase_le_backoff hmax hbase hpos, backoff_le_backoffMax _ f⟩

/-- The product overflows a word at the second wait, and the longest duration at the fortieth. -/
theorem waits_at_the_largest_words :
    let p : RetryPolicy := { backoffBase := 2 ^ 63, backoffMax := 2 ^ 64 - 1 }
    p.InWords ∧ ({ retry := p } : Settings).validate = .ok { retry := p } ∧
      p.backoff 1 = 2 ^ 63 ∧ p.backoff 2 = 2 ^ 64 - 1 ∧ p.backoff 40 = 2 ^ 64 - 1 := by
  intro p
  have hwords : p.InWords := ⟨by decide, by decide⟩
  have hvalid : ({ retry := p } : Settings).validate = .ok { retry := p } := by rfl
  obtain ⟨-, hexact, -, -, -, hstays, hsettings⟩ := waits_double_up_to_the_cap p hwords
  have hsecond : p.backoff 2 = 2 ^ 64 - 1 := (hexact 2 (by decide)).1.trans (by decide)
  exact ⟨hwords, hvalid, (hsettings _ rfl hvalid).1, hsecond,
    hstays 2 40 (by decide) (by decide) hsecond⟩

end RetryPolicy

end Highlight
