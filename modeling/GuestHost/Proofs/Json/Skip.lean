import GuestHost.Json.Skip
import GuestHost.Proofs.Json.Value

/-! Values are passed over as a whole, however deep they are. -/
namespace GuestHost.Json

namespace Skip

/-- The reading goes on at a position, or is over. -/
def resume : Option Position → List Token → Except Fault (List Token)
  | none, ts => .ok ts
  | some p, ts => run p ts

theorem run_of_step {p : Position} {t : Token} {q : Option Position} (h : step p t = .ok q)
    (ts : List Token) : run p (t :: ts) = resume q ts := by
  rw [run, h]
  cases q with
  | none => rfl
  | some p' => rfl

def itemPlace (first : Bool) : Place :=
  if first then .firstItem else .after

def memberPlace (first : Bool) : Place :=
  if first then .firstKey else .after

/-- No value begins with a closing bracket. -/
theorem run_firstItem (open_ : List Enclosure) (v : Value) (ts : List Token) :
    run (.firstItem, open_) (v.tokens ++ ts) = run (.value, open_) (v.tokens ++ ts) := by
  cases v <;> rfl

/-- What stands before an item. -/
theorem run_beforeItem (first : Bool) (open_ : List Enclosure) (v : Value) (ts : List Token) :
    run (itemPlace first, .list :: open_) (separator first ++ (v.tokens ++ ts)) =
      run (.value, .list :: open_) (v.tokens ++ ts) := by
  cases first with
  | true => exact run_firstItem (.list :: open_) v ts
  | false => exact run_of_step (p := (.after, .list :: open_)) (t := .comma) rfl _

/-- What stands before the value of a member. -/
theorem run_beforeValue (first : Bool) (open_ : List Enclosure) (k : List Piece)
    (ts : List Token) :
    run (memberPlace first, .object :: open_) (separator first ++ .ofPieces k :: .colon :: ts) =
      run (.value, .object :: open_) ts := by
  cases first <;> rfl

/-- Behind a value that is enclosed the enclosure goes on. -/
theorem resume_close (e : Enclosure) (open_ : List Enclosure) (ts : List Token) :
    resume (close (e :: open_)) ts = run (.after, e :: open_) ts := by
  rfl

mutual

/-- One case for each kind of value; what is open around it stays open. -/
theorem run_tokens (open_ : List Enclosure) (ts : List Token) :
    ∀ v : Value, run (.value, open_) (v.tokens ++ ts) = resume (close open_) ts
  | .null => run_of_step (p := (.value, open_)) (t := .null) rfl ts
  | .boolean b => run_of_step (p := (.value, open_)) (t := .boolean b) rfl ts
  | .numeral l => run_of_step (p := (.value, open_)) (t := .numeral l.numeral) rfl ts
  | .text ps => run_of_step (p := (.value, open_)) (t := .ofPieces ps) rfl ts
  | .list vs => by
    have hopen : step (.value, open_) .openList = .ok (some (.firstItem, .list :: open_)) := rfl
    rw [Value.tokens, List.cons_append, run_of_step hopen]
    exact run_items open_ ts true vs
  | .object ms => by
    have hopen : step (.value, open_) .openObject = .ok (some (.firstKey, .object :: open_)) := rfl
    rw [Value.tokens, List.cons_append, run_of_step hopen]
    exact run_members open_ ts true ms

theorem run_items (open_ : List Enclosure) (ts : List Token) (first : Bool) :
    ∀ vs : List Value, run (itemPlace first, .list :: open_) (Value.itemTokens first vs ++ ts) =
      resume (close open_) ts
  | [] => by cases first <;> exact run_of_step rfl ts
  | v :: vs => by
    have hv := run_tokens (.list :: open_) (Value.itemTokens false vs ++ ts) v
    have hrest := run_items open_ ts false vs
    rw [Value.itemTokens, List.append_assoc, List.append_assoc, run_beforeItem, hv, resume_close]
    exact hrest

theorem run_members (open_ : List Enclosure) (ts : List Token) (first : Bool) :
    ∀ ms : Members, run (memberPlace first, .object :: open_) (Value.memberTokens first ms ++ ts) =
      resume (close open_) ts
  | [] => by cases first <;> exact run_of_step rfl ts
  | (k, v) :: ms => by
    have hv := run_tokens (.object :: open_) (Value.memberTokens false ms ++ ts) v
    have hrest := run_members open_ ts false ms
    rw [Value.memberTokens, List.append_assoc, List.cons_append, List.cons_append,
      List.append_assoc, run_beforeValue, hv, resume_close]
    exact hrest

end

end Skip

theorem skip_tokens (v : Value) (ts : List Token) : skip (v.tokens ++ ts) = .ok ts :=
  Skip.run_tokens [] ts v

end GuestHost.Json
