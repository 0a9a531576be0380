import Mathlib.Tactic.Common
import Mathlib.Algebra.Group.Nat.Basic

/-! # The `tracing_core` values the filtering core reads

`Level`, `LevelFilter` and `Interest` as `tracing_core` defines them.  Levels
are ordered by verbosity, `ERROR` least and `TRACE` most; a `LevelFilter` adds
`OFF` below every level.  `Option<LevelFilter>` is compared as Rust derives it
for `Option`, with `None` below every `Some`, which is what `std::cmp::max`
in `Layered::pick_level_hint` uses. -/
set_option autoImplicit false

namespace TracingSubscriber

inductive Level
  | error | warn | info | debug | trace
  deriving DecidableEq, Repr

def Level.rank : Level → Nat
  | .error => 1
  | .warn => 2
  | .info => 3
  | .debug => 4
  | .trace => 5

inductive LevelFilter
  | off | error | warn | info | debug | trace
  deriving DecidableEq, Repr

def LevelFilter.rank : LevelFilter → Nat
  | .off => 0
  | .error => 1
  | .warn => 2
  | .info => 3
  | .debug => 4
  | .trace => 5

/-- `level <= filter`: the filter admits events of this level. -/
def Level.le (level : Level) (filter : LevelFilter) : Bool :=
  decide (level.rank ≤ filter.rank)

def LevelFilter.max (a b : LevelFilter) : LevelFilter :=
  if a.rank ≤ b.rank then b else a

/-- `std::cmp::max` on `Option<LevelFilter>`: `None` is the least element. -/
def maxHint : Option LevelFilter → Option LevelFilter → Option LevelFilter
  | none, b => b
  | a, none => a
  | some a, some b => some (a.max b)

/-- A hint `some ceiling` rules out a level more verbose than `ceiling`. -/
def Above (level : Level) : Option LevelFilter → Prop
  | none => False
  | some ceiling => ceiling.rank < level.rank

instance (level : Level) : (hint : Option LevelFilter) → Decidable (Above level hint)
  | none => isFalse id
  | some ceiling => inferInstanceAs (Decidable (ceiling.rank < level.rank))

theorem Above.isSome {level : Level} {hint : Option LevelFilter} (above : Above level hint) :
    hint.isSome := by
  cases hint with
  | none => exact above.elim
  | some _ => rfl

theorem maxHint_isSome {a b : Option LevelFilter} (hinted : (maxHint a b).isSome) :
    a.isSome ∨ b.isSome := by
  match a, b with
  | none, _ => exact .inr (by simpa [maxHint] using hinted)
  | some _, _ => exact .inl rfl

theorem LevelFilter.rank_le_max (a b : LevelFilter) :
    a.rank ≤ (a.max b).rank ∧ b.rank ≤ (a.max b).rank := by
  unfold LevelFilter.max
  split <;> omega

theorem above_maxHint {level : Level} {a b : Option LevelFilter}
    (above : Above level (maxHint a b)) :
    (a.isSome → Above level a) ∧ (b.isSome → Above level b) := by
  match a, b with
  | none, _ => simpa [maxHint] using fun _ => above
  | some _, none => simpa [maxHint] using above
  | some a, some b =>
      have bounds := LevelFilter.rank_le_max a b
      simp only [maxHint, Above, Option.isSome_some, forall_const] at above ⊢
      omega

inductive Interest
  | never | sometimes | always
  deriving DecidableEq, Repr

def Interest.isNever (interest : Interest) : Bool := interest == .never

def Interest.isSometimes (interest : Interest) : Bool := interest == .sometimes

def Interest.isAlways (interest : Interest) : Bool := interest == .always

end TracingSubscriber
