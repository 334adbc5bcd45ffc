import GuestHost.Proofs.Json.Reader
import GuestHost.Proofs.Json.Scan
import GuestHost.Proofs.Json.Skip
import Mathlib.Data.List.Basic

/-! Records are read from objects: the members are entered one by one, in whatever order they come,
and each component of the record is what its own field was given. -/
namespace GuestHost.Json

namespace Members

/-- The value of the first member with this name. -/
def given (ms : Members) (name : String) : Option Value :=
  (ms.find? (keyName? ·.1 = some name)).map Prod.snd

def times (ms : Members) (name : String) : Nat :=
  ms.countP (keyName? ·.1 = some name)

/-- Some member has this name and this value. -/
def Gives (ms : Members) (name : String) (v : Value) : Prop :=
  ∃ m ∈ ms, keyName? m.1 = some name ∧ m.2 = v

variable {ms : Members} {m : List Piece × Value} {name : String}

theorem gives_of_given {v : Value} (h : ms.given name = some v) : ms.Gives name v := by
  obtain ⟨m, hm, rfl⟩ := Option.map_eq_some_iff.mp h
  have hname := List.find?_some hm
  exact ⟨m, List.mem_of_find?_eq_some hm, of_decide_eq_true hname, rfl⟩

theorem given_cons_of_eq (h : keyName? m.1 = some name) : given (m :: ms) name = some m.2 := by
  simp [given, h]

theorem given_cons_of_ne (h : keyName? m.1 ≠ some name) : given (m :: ms) name = given ms name := by
  simp [given, h]

theorem times_cons {n : String} (h : keyName? m.1 = some n) (name : String) :
    times (m :: ms) name = times ms name + if name = n then 1 else 0 := by
  simp [times, List.countP_cons, h, eq_comm]

theorem times_pos_of_gives {v : Value} (h : ms.Gives name v) : 0 < ms.times name := by
  obtain ⟨m, hm, hname, -⟩ := h
  exact List.countP_pos_iff.mpr ⟨m, hm, decide_eq_true hname⟩

/-- What is given once is what the look-up finds. -/
theorem given_of_gives {v : Value} (h : ms.Gives name v) (honce : ms.times name ≤ 1) :
    ms.given name = some v := by
  induction ms with
  | nil =>
    obtain ⟨m, hm, -⟩ := h
    cases hm
  | cons m ms ih =>
    obtain ⟨m', hm', hname, hv⟩ := h
    by_cases he : keyName? m.1 = some name
    · rw [times_cons he, if_pos rfl] at honce
      rcases List.mem_cons.mp hm' with rfl | hmem
      · rw [given_cons_of_eq he, hv]
      · have hpos : 0 < times ms name := times_pos_of_gives ⟨m', hmem, hname, hv⟩
        omega
    · rcases List.mem_cons.mp hm' with rfl | hmem
      · exact absurd hname he
      · rw [given_cons_of_ne he]
        have htail : times ms name ≤ 1 := by
          have hle : times ms name ≤ times (m :: ms) name := by
            unfold times
            exact (List.sublist_cons_self m ms).countP_le
          omega
        exact ih ⟨m', hmem, hname, hv⟩ htail

theorem given_eq_none_of_times (h : times ms name = 0) : given ms name = none := by
  rw [times, List.countP_eq_zero] at h
  rw [given, List.find?_eq_none.mpr h, Option.map_none]

end Members

namespace Schema

variable {α σ : Type} {S : Schema σ} {R : Reader α}

/-- One member on: it is passed over, or its change is made to the record. -/
def enter (S : Schema σ) (p : List String × σ) (m : List Piece × Value) :
    Except Fault (List String × σ) := do
  let name ← Quoted.text ⟨m.1, none⟩
  match S.field? name with
  | none => return p
  | some f =>
    if name ∈ p.1 then throw (.repeated name)
    let change ← Reader.on f.read m.2
    return (name :: p.1, change p.2)

/-- The items of a list, for the fields in their order. -/
def fill (r : σ) : List (Field σ) → List Value → Except Fault σ
  | _, [] => .ok r
  | [], _ :: _ => .error .malformed
  | f :: fs, v :: vs => do
    let change ← Reader.on f.read v
    fill (change r) fs vs

theorem mem_of_field? {name : String} {f : Field σ} (h : S.field? name = some f) :
    f ∈ S.fields ∧ f.name = name := by
  have hname := List.find?_some h
  exact ⟨List.mem_of_find?_eq_some h, of_decide_eq_true hname⟩

section Steady

variable (hS : ∀ f ∈ S.fields, Steady f.read)
include hS

theorem entry_member (seen : List String) (r : σ) (k : List Piece) (v : Value) (ts : List Token) :
    S.entry seen r (.ofPieces k :: .colon :: (v.tokens ++ ts)) =
      (S.enter (seen, r) (k, v)).map fun p => (p.1, p.2, ts) := by
  simp only [Token.ofPieces, entry, enter]
  cases Quoted.text ⟨k, none⟩ with
  | error f => rfl
  | ok name =>
    simp only [bind, Except.bind, colon, skip_tokens]
    cases hf : S.field? name with
    | none => rfl
    | some f =>
      have hread := hS f (mem_of_field? hf).1 v ts
      by_cases hseen : name ∈ seen
      · simp only [hseen, if_true]
        rfl
      · simp only [hseen, if_false, hread]
        cases Reader.on f.read v with
        | error e => rfl
        | ok change => rfl

/-- By induction on the members; one more of the fuel than there are members is enough. -/
theorem entries_members (ts : List Token) (ms : Members) : ∀ {fuel : Nat} (first : Bool)
    (seen : List String) (r : σ), ms.length < fuel →
    S.entries fuel first seen r (Value.memberTokens first ms ++ ts) =
      (ms.foldlM S.enter (seen, r)).map fun p => (p.2, ts) := by
  induction ms with
  | nil =>
    intro fuel first seen r hfuel
    cases fuel with
    | zero => omega
    | succ fuel => rfl
  | cons m ms ih =>
    obtain ⟨k, v⟩ := m
    intro fuel first seen r hfuel
    cases fuel with
    | zero => omega
    | succ fuel =>
      have hentry := entry_member hS seen r k v (Value.memberTokens false ms ++ ts)
      have hstart : S.entries (fuel + 1) first seen r (Value.memberTokens first ((k, v) :: ms) ++ ts) =
          (S.entry seen r (.ofPieces k :: .colon :: (v.tokens ++ (Value.memberTokens false ms ++ ts)))
            >>= fun p => S.entries fuel false p.1 p.2.1 p.2.2) := by
        rw [Value.memberTokens, List.append_assoc, List.cons_append, List.cons_append,
          List.append_assoc]
        cases first <;> rfl
      rw [hstart, hentry, List.foldlM_cons]
      rcases S.enter (seen, r) (k, v) with e | p
      · rfl
      · exact ih false p.1 p.2 (Nat.lt_of_succ_lt_succ hfuel)

end Steady

theorem items_values (ts : List Token) (vs : List Value) : ∀ (fs : List (Field σ)),
    (∀ f ∈ fs, Steady f.read) → ∀ (first : Bool) (r : σ),
    items r first fs (Value.itemTokens first vs ++ ts) = (fill r fs vs).map (·, ts) := by
  induction vs with
  | nil =>
    intro fs hfs first r
    cases fs <;> rfl
  | cons v vs ih =>
    intro fs hfs first r
    cases fs with
    | nil =>
      rw [Value.itemTokens, List.append_assoc, List.append_assoc]
      cases first <;> cases v <;> rfl
    | cons f fs =>
      obtain ⟨hf, hfs⟩ := List.forall_mem_cons.mp hfs
      have hread := hf v (Value.itemTokens false vs ++ ts)
      have hstart : items r first (f :: fs) (Value.itemTokens first (v :: vs) ++ ts) =
          (f.read (v.tokens ++ (Value.itemTokens false vs ++ ts)) >>= fun p =>
            items (p.1 r) false fs p.2) := by
        rw [Value.itemTokens, List.append_assoc, List.append_assoc]
        cases first <;> cases v <;> rfl
      rw [hstart, hread, fill]
      rcases Reader.on f.read v with e | change
      · rfl
      · exact ih fs hfs false (change r)

theorem length_memberTokens (first : Bool) (ms : Members) :
    ms.length < (Value.memberTokens first ms).length := by
  induction ms generalizing first with
  | nil => exact Nat.one_pos
  | cons m ms ih =>
    have hrest := ih false
    obtain ⟨k, v⟩ := m
    simp only [Value.memberTokens, List.length_append, List.length_cons]
    omega

section Read

variable (hS : ∀ f ∈ S.fields, Steady f.read)
include hS

theorem read_object (ms : Members) (ts : List Token) : S.read ((Value.object ms).tokens ++ ts) =
    (ms.foldlM S.enter ([], S.initial)).map fun p => (p.2, ts) := by
  have hlen := length_memberTokens true ms
  have hfuel : ms.length < (Value.memberTokens true ms ++ ts).length + 1 := by
    rw [List.length_append]
    omega
  rw [Value.tokens, List.cons_append]
  exact entries_members hS ts ms true [] S.initial hfuel

theorem on_object (ms : Members) :
    Reader.on S.read (.object ms) = (ms.foldlM S.enter ([], S.initial)).map Prod.snd := by
  have hread := read_object hS ms []
  rw [List.append_nil] at hread
  rw [Reader.on, hread, map_map]

theorem steady_read : Steady S.read := by
  intro v ts
  cases v with
  | list vs =>
    have hitems := items_values ts vs S.fields hS true S.initial
    have hown := items_values [] vs S.fields hS true S.initial
    rw [List.append_nil] at hown
    rw [Reader.on, Value.tokens, List.cons_append, read, read, hitems, hown, map_map, map_map]
  | object ms =>
    rw [read_object hS, on_object hS, map_map]
  | _ => rfl

/-- A text that is nothing but a value is read as that value. -/
theorem readText_of_written {v : Value} {text : String} (h : v.Written text) :
    S.readText text = Reader.on S.read v := by
  rw [readText, Value.scan_of_written h, (steady_read hS).tokens]
  cases Reader.on S.read v with
  | error e => rfl
  | ok r => rfl

end Read

/-- What it takes for an object to be read, once the fields in `seen` are given: its keys are texts,
no field is given twice, and those that are given can be read. -/
structure Accepts (S : Schema σ) (seen : List String) (ms : Members) : Prop where
  named : ∀ m ∈ ms, ∃ name, keyName? m.1 = some name
  once : ∀ name, (S.field? name).isSome → ms.times name + (if name ∈ seen then 1 else 0) ≤ 1
  read : ∀ m ∈ ms, ∀ name f, keyName? m.1 = some name → S.field? name = some f →
    ∃ change, Reader.on f.read m.2 = .ok change

/-- The ways in which a member can be entered. -/
theorem enter_eq_ok_iff {p q : List String × σ} {m : List Piece × Value} :
    S.enter p m = .ok q ↔ ∃ name, keyName? m.1 = some name ∧
      (S.field? name = none ∧ q = p ∨ ∃ f change, S.field? name = some f ∧ name ∉ p.1 ∧
        Reader.on f.read m.2 = .ok change ∧ q = (name :: p.1, change p.2)) := by
  unfold enter keyName?
  cases Quoted.text ⟨m.1, none⟩ with
  | error e => simp [bind, Except.bind, Except.toOption]
  | ok name =>
    simp only [bind, Except.bind, Except.toOption, Option.some.injEq, exists_eq_left']
    cases hf : S.field? name with
    | none => simp [pure, Except.pure, eq_comm]
    | some f =>
      by_cases hseen : name ∈ p.1
      · simp [hseen, throw, throwThe, MonadExceptOf.throw]
      · simp only [hseen, if_false]
        cases hread : Reader.on f.read m.2 with
        | error e => simp [hread]
        | ok change => simp [hread, pure, Except.pure, eq_comm]

theorem foldlM_cons_eq_ok_iff {ε α β : Type} {f : β → α → Except ε β} {x : α} {xs : List α}
    {b b' : β} : (x :: xs).foldlM f b = .ok b' ↔ ∃ q, f b x = .ok q ∧ xs.foldlM f q = .ok b' := by
  rw [List.foldlM_cons]
  cases f b x with
  | error e => simp [bind, Except.bind]
  | ok q => simp [bind, Except.bind]

section Cons

variable {seen : List String} {m : List Piece × Value} {ms : Members} {name : String}
  (hname : keyName? m.1 = some name)
include hname

/-- A member under an unknown key takes no part. -/
theorem accepts_cons_of_unknown (hf : S.field? name = none) :
    S.Accepts seen (m :: ms) ↔ S.Accepts seen ms := by
  have htimes : ∀ n, (S.field? n).isSome → Members.times (m :: ms) n = ms.times n := by
    intro n hn
    have hne : n ≠ name := by
      rintro rfl
      simp [hf] at hn
    rw [Members.times_cons hname, if_neg hne, Nat.add_zero]
  constructor
  · intro h
    constructor
    · exact fun m' hm' => h.named m' (List.mem_cons_of_mem _ hm')
    · intro n hn
      rw [← htimes n hn]
      exact h.once n hn
    · exact fun m' hm' => h.read m' (List.mem_cons_of_mem _ hm')
  · intro h
    constructor
    · exact List.forall_mem_cons.mpr ⟨⟨name, hname⟩, h.named⟩
    · intro n hn
      rw [htimes n hn]
      exact h.once n hn
    · refine List.forall_mem_cons.mpr ⟨fun n f hn hfound => ?_, h.read⟩
      cases hname.symm.trans hn
      cases hf.symm.trans hfound

/-- A member under a known key uses the key up. -/
theorem accepts_cons_of_known {f : Field σ} (hf : S.field? name = some f) :
    S.Accepts seen (m :: ms) ↔ name ∉ seen ∧ (∃ change, Reader.on f.read m.2 = .ok change) ∧
      S.Accepts (name :: seen) ms := by
  have htimes : name ∉ seen → ∀ n, Members.times (m :: ms) n + (if n ∈ seen then 1 else 0) =
      ms.times n + if n ∈ name :: seen then 1 else 0 := by
    intro hseen n
    rw [Members.times_cons hname]
    by_cases he : n = name
    · simp [he, hseen]
    · simp [he]
  constructor
  · intro h
    have hseen : name ∉ seen := by
      intro hmem
      have hfirst := h.once name (by rw [hf]; rfl)
      rw [Members.times_cons hname, if_pos rfl, if_pos hmem] at hfirst
      omega
    refine ⟨hseen, h.read m List.mem_cons_self name f hname hf, ?_⟩
    constructor
    · exact fun m' hm' => h.named m' (List.mem_cons_of_mem _ hm')
    · intro n hn
      rw [← htimes hseen n]
      exact h.once n hn
    · exact fun m' hm' => h.read m' (List.mem_cons_of_mem _ hm')
  · rintro ⟨hseen, hread, h⟩
    constructor
    · exact List.forall_mem_cons.mpr ⟨⟨name, hname⟩, h.named⟩
    · intro n hn
      rw [htimes hseen n]
      exact h.once n hn
    · refine List.forall_mem_cons.mpr ⟨fun n f' hn hfound => ?_, h.read⟩
      cases hname.symm.trans hn
      cases hf.symm.trans hfound
      exact hread

end Cons

/-- By induction on the members: what is accepted of the rest depends on what has been seen. -/
theorem exists_foldlM_enter_iff (ms : Members) : ∀ (seen : List String) (r : σ),
    (∃ p, ms.foldlM S.enter (seen, r) = .ok p) ↔ S.Accepts seen ms := by
  induction ms with
  | nil =>
    intro seen r
    refine iff_of_true ⟨(seen, r), rfl⟩ ⟨nofun, fun name _ => ?_, nofun⟩
    have hnone : Members.times [] name = 0 := rfl
    split <;> omega
  | cons m ms ih =>
    intro seen r
    constructor
    · rintro ⟨p, hp⟩
      obtain ⟨q, hq, hrest⟩ := foldlM_cons_eq_ok_iff.mp hp
      obtain ⟨name, hname, ⟨hf, rfl⟩ | ⟨f, change, hf, hseen, hchange, rfl⟩⟩ := enter_eq_ok_iff.mp hq
      · exact (accepts_cons_of_unknown hname hf).mpr ((ih _ _).mp ⟨p, hrest⟩)
      · exact (accepts_cons_of_known hname hf).mpr ⟨hseen, ⟨change, hchange⟩, (ih _ _).mp ⟨p, hrest⟩⟩
    · intro h
      obtain ⟨name, hname⟩ := h.named m List.mem_cons_self
      cases hf : S.field? name with
      | none =>
        obtain ⟨p, hp⟩ := (ih seen r).mpr ((accepts_cons_of_unknown hname hf).mp h)
        have hq : S.enter (seen, r) m = .ok (seen, r) :=
          enter_eq_ok_iff.mpr ⟨name, hname, .inl ⟨hf, rfl⟩⟩
        exact ⟨p, foldlM_cons_eq_ok_iff.mpr ⟨_, hq, hp⟩⟩
      | some f =>
        obtain ⟨hseen, ⟨change, hchange⟩, hrest⟩ := (accepts_cons_of_known hname hf).mp h
        obtain ⟨p, hp⟩ := (ih (name :: seen) (change r)).mpr hrest
        have hq : S.enter (seen, r) m = .ok (name :: seen, change r) :=
          enter_eq_ok_iff.mpr ⟨name, hname, .inr ⟨f, change, hf, hseen, hchange, rfl⟩⟩
        exact ⟨p, foldlM_cons_eq_ok_iff.mpr ⟨_, hq, hp⟩⟩

/-- The field does not touch this component of the record. -/
def Spares (f : Field σ) (π : σ → α) : Prop :=
  ∀ v change, Reader.on f.read v = .ok change → ∀ r, π (change r) = π r

/-- A component of the record that one field sets and no other field touches. -/
structure Sets (S : Schema σ) (name : String) (R : Reader α) (π : σ → α) : Prop where
  own : ∃ set, S.field? name = some (.of name R set) ∧ ∀ a r, π (set a r) = a
  other : ∀ f ∈ S.fields, f.name ≠ name → Spares f π

theorem spares_of {β : Type} {R' : Reader β} (hR : Steady R') (name : String)
    {set : β → σ → σ} {π : σ → α} (h : ∀ b r, π (set b r) = π r) : Spares (.of name R' set) π := by
  intro v change hchange r
  obtain ⟨b, -, rfl⟩ := (Field.on_of_eq_ok_iff hR).mp hchange
  exact h b r

theorem sets_of_fields {name : String} {set : α → σ → σ} {π : σ → α}
    (hown : S.field? name = some (.of name R set)) (hset : ∀ a r, π (set a r) = a)
    (hother : S.fields.Forall fun f => f.name = name ∨ Spares f π) : S.Sets name R π where
  own := ⟨set, hown, hset⟩
  other f hf hne := (List.forall_iff_forall_mem.mp hother f hf).resolve_left hne

/-- What a field's value is read as, or what the record had at first. -/
def reading (R : Reader α) (ms : Members) (name : String) (a : α) : α :=
  ((ms.given name).bind fun v => (Reader.on R v).toOption).getD a

/-- By induction on the members. Once the field is given, it is given no more. -/
theorem Sets.component {name : String} {π : σ → α} (h : S.Sets name R π) (hR : Steady R)
    (ms : Members) : ∀ {seen : List String} {r : σ} {p : List String × σ},
      ms.foldlM S.enter (seen, r) = .ok p → π p.2 = reading R ms name (π r) := by
  induction ms with
  | nil =>
    intro seen r p hp
    cases hp
    rfl
  | cons m ms ih =>
    intro seen r p hp
    obtain ⟨q, hq, hrest⟩ := foldlM_cons_eq_ok_iff.mp hp
    have hπ := ih hrest
    obtain ⟨n, hn, hcases⟩ := enter_eq_ok_iff.mp hq
    obtain ⟨set, hown, hset⟩ := h.own
    by_cases he : n = name
    · subst he
      obtain ⟨hf, -⟩ | ⟨f, change, hf, hseen, hchange, rfl⟩ := hcases
      · cases hf.symm.trans hown
      · cases hf.symm.trans hown
        have haccepts := (exists_foldlM_enter_iff ms _ _).mp ⟨p, hrest⟩
        have honce := haccepts.once n (by rw [hown]; rfl)
        rw [if_pos List.mem_cons_self] at honce
        have hgone : Members.given ms n = none := Members.given_eq_none_of_times (by omega)
        obtain ⟨a, hread, rfl⟩ := (Field.on_of_eq_ok_iff hR).mp hchange
        rw [hπ, reading, hgone, reading, Members.given_cons_of_eq hn]
        simp [hread, hset, Except.toOption]
    · have hother : keyName? m.1 ≠ some name := by
        rw [hn]
        intro heq
        cases heq
        exact he rfl
      have hkeep : π q.2 = π r := by
        obtain ⟨-, rfl⟩ | ⟨f, change, hf, -, hchange, rfl⟩ := hcases
        · rfl
        · obtain ⟨hmem, hfname⟩ := mem_of_field? hf
          exact h.other f hmem (hfname ▸ he) m.2 change hchange r
      rw [hπ, hkeep, reading, reading, Members.given_cons_of_ne hother]

/-- A record that is read from an object has been entered member by member. -/
theorem exists_foldlM_of_on (hS : ∀ f ∈ S.fields, Steady f.read) {ms : Members} {r : σ}
    (h : Reader.on S.read (.object ms) = .ok r) :
    ∃ seen, ms.foldlM S.enter ([], S.initial) = .ok (seen, r) := by
  rw [on_object hS] at h
  obtain ⟨⟨seen, r'⟩, hp, rfl⟩ := map_eq_ok_iff.mp h
  exact ⟨seen, hp⟩

theorem Sets.component_of_on {name : String} {π : σ → α} (h : S.Sets name R π) (hR : Steady R)
    (hS : ∀ f ∈ S.fields, Steady f.read) {ms : Members} {r : σ}
    (hr : Reader.on S.read (.object ms) = .ok r) : π r = reading R ms name (π S.initial) := by
  obtain ⟨seen, hp⟩ := exists_foldlM_of_on hS hr
  exact h.component hR ms hp

/-- An object is read exactly if it is accepted. -/
theorem exists_on_object_iff (hS : ∀ f ∈ S.fields, Steady f.read) (ms : Members) :
    (∃ r, Reader.on S.read (.object ms) = .ok r) ↔ S.Accepts [] ms := by
  rw [← exists_foldlM_enter_iff ms [] S.initial]
  constructor
  · rintro ⟨r, hr⟩
    obtain ⟨seen, hp⟩ := exists_foldlM_of_on hS hr
    exact ⟨_, hp⟩
  · rintro ⟨p, hp⟩
    exact ⟨p.2, by rw [on_object hS, hp]; rfl⟩

end Schema

/-- The fields of a record and the values that they can have. -/
abbrev Shape := List (String × (Value → Prop))

/-- An object for a record: its keys are texts, each field is given once at most, and has a value
that it can have. What else is in it does not matter. -/
structure Members.Fit (ms : Members) (shape : Shape) : Prop where
  named : ∀ m ∈ ms, ∃ name, keyName? m.1 = some name
  once : ∀ p ∈ shape, ms.times p.1 ≤ 1
  fits : ∀ p ∈ shape, ∀ m ∈ ms, keyName? m.1 = some p.1 → p.2 m.2

theorem Members.Fit.of_given {ms : Members} {shape : Shape} (h : ms.Fit shape)
    {p : String × (Value → Prop)} (hp : p ∈ shape) {v : Value} (hv : ms.given p.1 = some v) :
    p.2 v := by
  obtain ⟨m, hm, hname, rfl⟩ := gives_of_given hv
  exact h.fits p hp m hm hname

namespace Schema

variable {σ : Type} {S : Schema σ} {shape : Shape}

/-- Each field of the schema can be read from the values that the shape has for it. -/
def Follows (S : Schema σ) (shape : Shape) : Prop :=
  S.fields.Forall fun f => ∃ p ∈ shape, p.1 = f.name ∧
    ∀ v, p.2 v → ∃ change, Reader.on f.read v = .ok change

theorem exists_of_follows (h : S.Follows shape) {name : String} {f : Field σ}
    (hf : S.field? name = some f) : ∃ p ∈ shape, p.1 = name ∧
      ∀ v, p.2 v → ∃ change, Reader.on f.read v = .ok change := by
  obtain ⟨hmem, hname⟩ := mem_of_field? hf
  obtain ⟨p, hp, hpname, hread⟩ := List.forall_iff_forall_mem.mp h f hmem
  exact ⟨p, hp, hpname.trans hname, hread⟩

theorem accepts_of_fit (h : S.Follows shape) {ms : Members} (hms : ms.Fit shape) :
    S.Accepts [] ms where
  named := hms.named
  once name hname := by
    obtain ⟨f, hf⟩ := Option.isSome_iff_exists.mp hname
    obtain ⟨p, hp, rfl, -⟩ := exists_of_follows h hf
    exact hms.once p hp
  read m hm name f hname hf := by
    obtain ⟨p, hp, rfl, hread⟩ := exists_of_follows h hf
    exact hread m.2 (hms.fits p hp m hm hname)

end Schema

end GuestHost.Json
