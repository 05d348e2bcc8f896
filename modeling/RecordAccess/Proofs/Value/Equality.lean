import RecordAccess.Proofs.Number.Rounding
import RecordAccess.Proofs.Record.Overlay

/-!
# Equality of values

Values of one kind are compared as they are. An integer and a floating-point number are compared as
floating-point numbers, after the integer is rounded. So an integer equals the number that it is rounded
to, and that is the number it is only if it fits into the significand (`same_int_float_iff`). Equality is
symmetric (`same_comm`), and it goes on from value to value except from an integer over a number to
another integer (`Bridged`, `same_iff_not_bridged`). Among values that are not rounded it is equality of
numbers (`same_iff_number?_eq`).

What is set in a record counts as no change if it equals what is there (`Record.unchanged_of_set`).
-/

namespace RecordAccess
open Access

namespace Value
variable {a b c : Value}

/-- The number that a value is. Infinities are none. -/
def number? : Value → Option ℚ
  | int n => some n.toInt
  | float x => x.rational?
  | _ => none

/-- Whether a value is no integer that is rounded to another number. -/
def IsExact (v : Value) : Prop := ∀ n, v = int n → Binary64.FitsSignificand n.toInt

/-- Two different integers with a floating-point number between them. -/
inductive Bridged : Value → Value → Value → Prop where
  | mk {m n x} :
    m ≠ n →
    Bridged (int m) (float x) (int n)

/-- To be the same is symmetric. -/
theorem same_comm (a b : Value) : a.same b = b.same a := by
  cases a <;> cases b <;> simp only [same, Binary64.same_comm, Bool.beq_comm]

/-- The same as an integer are that integer and the number that it is rounded to. -/
lemma same_int_iff {n : Int64} :
    a.same (int n) = true ↔
      a = int n ∨ ∃ x, a = float x ∧ (Binary64.ofInt n.toInt).same x = true := by
  cases a <;> simp [same]

/-- The same as a number are the integers that are rounded to it and the same numbers. -/
lemma same_float_iff {x : Binary64} :
    a.same (float x) = true ↔
      (∃ n, a = int n ∧ (Binary64.ofInt n.toInt).same x = true) ∨
        ∃ y, a = float y ∧ y.same x = true := by
  cases a <;> simp [same]

/-- The same as a text is what has that text. -/
lemma same_iff_asText? {s : String} (hb : b.asText? = some s) :
    a.same b = true ↔ a.asText? = some s := by
  cases b <;> cases hb <;> cases a <;> simp [same, asText?]

/-- The values that have no number and no text are compared as they are. -/
lemma same_iff_eq (hb : b = null ∨ (∃ p, b = bool p) ∨ ∃ bytes, b = binary bytes) :
    a.same b = true ↔ a = b := by
  obtain rfl | ⟨p, rfl⟩ | ⟨bytes, rfl⟩ := hb <;> cases a <;> simp [same]

/-- Two values that equal a third one are equal, unless they are different integers. -/
lemma same_iff_not_bridged (hab : a.same b = true) (hbc : b.same c = true) :
    a.same c = true ↔ ¬ Bridged a b c := by
  have hcb : c.same b = true := same_comm b c ▸ hbc
  have hother (h : a.same c = true) (hb : ∀ x, b ≠ float x) : a.same c = true ↔ ¬ Bridged a b c := by
    refine iff_of_true h ?_
    rintro ⟨-⟩
    exact hb _ rfl
  have hplain (hb : b = null ∨ (∃ p, b = bool p) ∨ ∃ bytes, b = binary bytes) : a.same c = true := by
    rw [(same_iff_eq hb).1 hcb]
    exact hab
  have htext {s : String} (hb : b.asText? = some s) : a.same c = true := by
    rw [same_iff_asText? ((same_iff_asText? hb).1 hcb)]
    exact (same_iff_asText? hb).1 hab
  cases b with
  | null => exact hother (hplain (.inl rfl)) nofun
  | bool p => exact hother (hplain (.inr (.inl ⟨p, rfl⟩))) nofun
  | binary bytes => exact hother (hplain (.inr (.inr ⟨bytes, rfl⟩))) nofun
  | text s => exact hother (htext rfl) nofun
  | dateTime s => exact hother (htext rfl) nofun
  | int n =>
    refine hother ?_ nofun
    obtain rfl | ⟨x, rfl, hx⟩ := same_int_iff.1 hab
    · exact hbc
    · obtain rfl | ⟨y, rfl, hy⟩ := same_int_iff.1 hcb
      · exact hab
      · exact Binary64.same_trans (Binary64.same_comm .. ▸ hx) hy
  | float x =>
    obtain ⟨m, rfl, hm⟩ | ⟨y, rfl, hy⟩ := same_float_iff.1 hab
    · obtain ⟨n, rfl, hn⟩ | ⟨z, rfl, hz⟩ := same_float_iff.1 hcb
      · -- the two integers are compared with each other as they are
        have hbridged : Bridged (int m) (float x) (int n) ↔ m ≠ n :=
          ⟨fun ⟨hne⟩ => hne, .mk⟩
        rw [hbridged, not_not]
        simp [same]
      · refine iff_of_true (Binary64.same_trans hm (Binary64.same_comm .. ▸ hz)) nofun
    · refine iff_of_true ?_ nofun
      obtain ⟨n, rfl, hn⟩ | ⟨z, rfl, hz⟩ := same_float_iff.1 hcb
      · exact Binary64.same_trans hn (Binary64.same_comm .. ▸ hy)
      · exact Binary64.same_trans hy (Binary64.same_comm .. ▸ hz)

/-- A 64-bit integer is at most 2⁶³ in size. -/
lemma natAbs_toInt_le (n : Int64) : n.toInt.natAbs ≤ 2 ^ 63 := by
  have hlow := n.le_toInt
  have hhigh := n.toInt_lt
  omega

/-- An integer equals exactly the numbers that denote it, if and only if it fits into the significand. -/
lemma same_int_float_iff (n : Int64) :
    (∀ x : Binary64, x.isFinite = true →
      ((int n).same (float x) = true ↔ x.rational? = some (n.toInt : ℚ))) ↔
      Binary64.FitsSignificand n.toInt := by
  rw [← Binary64.rational?_ofInt_eq_iff (natAbs_toInt_le n)]
  constructor
  · intro h
    obtain ⟨negative, rank, hofInt⟩ := Binary64.exists_ofInt_eq (natAbs_toInt_le n)
    obtain ⟨units, hunits, -⟩ := Binary64.exists_units?_of_finite negative rank
    rw [← hofInt] at hunits
    refine (h (.ofInt n.toInt) (by rw [hofInt]; rfl)).1 ?_
    exact Binary64.same_iff.2 ⟨units, hunits, hunits⟩
  · intro h x _
    exact Binary64.same_iff_of_rational? h

/-- Values that are not rounded are equal if they are the same number. -/
lemma same_iff_number?_eq {p q : ℚ} (ha : a.number? = some p) (hb : b.number? = some q)
    (hexact : a.IsExact) (hexact' : b.IsExact) : a.same b = true ↔ p = q := by
  have hfinite {x : Binary64} {r : ℚ} (hx : x.rational? = some r) (y : Binary64) :
      x.same y = true ↔ y.rational? = some r := Binary64.same_iff_of_rational? hx
  have hint {n : Int64} (h : (int n).IsExact) :
      (Binary64.ofInt n.toInt).rational? = some (n.toInt : ℚ) :=
    (Binary64.rational?_ofInt_eq_iff (natAbs_toInt_le n)).2 (h n rfl)
  cases a with
  | int m =>
    obtain rfl := Option.some_inj.1 ha
    cases b with
    | int n =>
      obtain rfl := Option.some_inj.1 hb
      simp [same, Int64.toInt_inj]
    | float y =>
      have hy : y.rational? = some q := hb
      rw [same, hfinite (hint hexact), hy, Option.some_inj, eq_comm]
    | _ => cases hb
  | float x =>
    have hx : x.rational? = some p := ha
    cases b with
    | int n =>
      obtain rfl := Option.some_inj.1 hb
      rw [same, hfinite (hint hexact'), hx, Option.some_inj]
    | float y =>
      have hy : y.rational? = some q := hb
      rw [same, hfinite hx, hy, Option.some_inj, eq_comm]
    | _ => cases hb
  | _ => cases ha

/-- Between exact values there is no number that two integers are rounded to. -/
lemma not_bridged_of_isExact (hab : a.same b = true) (hbc : b.same c = true) (ha : a.IsExact)
    (hc : c.IsExact) : ¬ Bridged a b c := by
  rintro ⟨hne⟩
  rename_i m n x
  have hm := (Binary64.rational?_ofInt_eq_iff (natAbs_toInt_le m)).2 (ha m rfl)
  have hn := (Binary64.rational?_ofInt_eq_iff (natAbs_toInt_le n)).2 (hc n rfl)
  have hx : x.rational? = some (m.toInt : ℚ) := (Binary64.same_iff_of_rational? hm).1 hab
  have hx' : x.rational? = some (n.toInt : ℚ) := (Binary64.same_iff_of_rational? hn).1 hbc
  have heq : (m.toInt : ℚ) = n.toInt := Option.some_inj.1 (hx.symm.trans hx')
  exact hne (Int64.toInt_inj.1 (by exact_mod_cast heq))

end Value

namespace Record
variable {s s' : Focus Record} {field : String} {v : Value}

/-- A value that is not staged is for a field that the record lacks or that has it already. -/
lemma unchanged_of_set (h : Runs (Record.set field v) s (.ok false) s') :
    s'.self.changes = s.self.changes ∧
      (Gives (exists? field) s false ∨
        ∃ current, Gives (get field) s (.value current) ∧ current.same v = true) := by
  have hacting := (fetches_set field v).runs s _ s' h
  generalize hr : (Except.ok false : Except Error Bool) = r at hacting
  cases hacting with
  | failed _ => cases hr
  | @done s₁ hhydrate =>
    have hexists := (fetches_exists? field).gives hhydrate
    have hget := (fetches_get field).gives hhydrate
    have hwriting := writing s₁.self field v
    have hchanged : (s₁.self.write field v).1 = false := (Except.ok.inj hr).symm
    cases hwrite : s₁.self.write field v with
    | mk changed r' =>
      rw [hwrite] at hwriting hchanged
      cases hwriting with
      | lacking hhas =>
        rw [hhas] at hexists
        exact ⟨overlay_hydrated hhydrate, .inl hexists⟩
      | same hhas hcurrent hsame =>
        rw [hcurrent] at hget
        exact ⟨(overlay_look s₁.self field).trans (overlay_hydrated hhydrate),
          .inr ⟨_, hget, hsame⟩⟩
      | staged _ _ => cases hchanged

end Record

namespace Value

/-- Equality of values is symmetric. Two values that equal a third one are equal, unless they are
different integers and the third one is a floating-point number, and so if neither is rounded. An integer
equals exactly the numbers that denote it, if and only if it fits into the significand. A value that is
set counts as no change only if it is the number that is there, when neither is rounded. -/
theorem compared_by_value (a b c : Value) (n : Int64) :
    a.same b = b.same a ∧
    (a.same b = true → b.same c = true →
      (a.same c = true ↔ ¬ Bridged a b c) ∧
      (a.IsExact → c.IsExact → a.same c = true)) ∧
    ((∀ x : Binary64, x.isFinite = true →
        ((int n).same (float x) = true ↔ x.rational? = some (n.toInt : ℚ))) ↔
      Binary64.FitsSignificand n.toInt) ∧
    ∀ (s s' : Focus Record) (field : String) (v : Value),
      Runs (Record.set field v) s (.ok false) s' →
      s'.self.changes = s.self.changes ∧
        (Record.Gives (Record.exists? field) s false ∨
          ∃ current, Record.Gives (Record.get field) s (.value current) ∧
            current.same v = true ∧
            (current.IsExact → v.IsExact →
              ∀ p q, current.number? = some p → v.number? = some q → p = q)) := by
  refine ⟨same_comm a b, ?triple, same_int_float_iff n, ?unchanged⟩
  case triple =>
    intro hab hbc
    refine ⟨same_iff_not_bridged hab hbc, ?_⟩
    intro ha hc
    exact (same_iff_not_bridged hab hbc).2 (not_bridged_of_isExact hab hbc ha hc)
  case unchanged =>
    intro s s' field v h
    obtain ⟨hchanges, hlacking | ⟨current, hget, hsame⟩⟩ := Record.unchanged_of_set h
    · exact ⟨hchanges, .inl hlacking⟩
    · refine ⟨hchanges, .inr ⟨current, hget, hsame, ?_⟩⟩
      intro hcurrent hv p q hp hq
      exact (same_iff_number?_eq hp hq hcurrent hv).1 hsame

/-- A stock of goods in a quantity. -/
def stocked (quantity : Int64) : Focus Record where
  self := .ofRow "stock" (.ofList [("id", .int 1), ("qty", .int quantity)])
  database := .ofEnvironment .empty .forgetful

/-- A quantity is not set that equals the one that is there. -/
lemma runs_set_stocked {quantity : Int64} {v : Value} (h : (int quantity).same v = true) :
    Runs (Record.set "qty" v) (stocked quantity) (.ok false) (stocked quantity) := by
  have hhas : (stocked quantity).self.hasField "qty" = true := rfl
  have hlook : (stocked quantity).self.look "qty" = (.value (.int quantity), (stocked quantity).self) :=
    rfl
  have hwrite : (stocked quantity).self.write "qty" v = (false, (stocked quantity).self) := by
    simp [Record.write, hhas, hlook, Record.differs, h]
  have hlazy : (stocked quantity).self.isLazy = false := rfl
  have hrun := (Record.fetches_set "qty" v).runs_of_hydrate (Record.runs_hydrate_of_isLazy hlazy)
  rwa [hwrite] at hrun

/-- Three is exact, as an integer and as a number. -/
lemma isExact_three : (int 3).IsExact ∧ (float (.ofInt 3)).IsExact := by
  refine ⟨?_, nofun⟩
  rintro n ⟨⟩
  exact Binary64.fitsSignificand_of_lt (by decide)

/-- Three is three in either form, also as a quantity that is set. -/
theorem compared_by_value_three :
    (int 3).same (float (.ofInt 3)) = true ∧ (float (.ofInt 3)).same (int 3) = true ∧
      (int 3).IsExact ∧ (float (.ofInt 3)).IsExact ∧ (int 3).same (int 3) = true ∧
      Runs (Record.set "qty" (.float (.ofInt 3))) (stocked 3) (.ok false) (stocked 3) ∧
      ∃ current, Record.Gives (Record.get "qty") (stocked 3) (.value current) ∧
        current.same (float (.ofInt 3)) = true := by
  obtain ⟨hexact, hexact'⟩ := isExact_three
  have hsame : (int 3).same (float (.ofInt 3)) = true := by decide +kernel
  have hsame' : (float (.ofInt 3)).same (int 3) = true := by decide +kernel
  obtain ⟨-, htriple, -, hunchanged⟩ := compared_by_value (int 3) (float (.ofInt 3)) (int 3) 3
  refine ⟨hsame, hsame', hexact, hexact', (htriple hsame hsame').2 hexact hexact,
    runs_set_stocked hsame, ?_⟩
  obtain hlacking | ⟨current, hget, hequal, -⟩ := (hunchanged _ _ _ _ (runs_set_stocked hsame)).2
  · obtain ⟨s', hrun⟩ := hlacking
    cases hrun
  · exact ⟨current, hget, hequal⟩

/-- The number two to the fifty-third. -/
def twoToFiftyThree : Binary64 := .ofBits 0x4340000000000000

/-- Two integers equal the number that both are rounded to. A quantity of the second one is not set to
that number, which is another one. -/
theorem not_compared_by_value_rounded :
    (int 9007199254740992).same (float twoToFiftyThree) = true ∧
      (float twoToFiftyThree).same (int 9007199254740993) = true ∧
      (int 9007199254740992).same (int 9007199254740993) = false ∧
      twoToFiftyThree.isFinite = true ∧
      (float twoToFiftyThree).number? ≠ (int 9007199254740993).number? ∧
      Runs (Record.set "qty" (.float twoToFiftyThree)) (stocked 9007199254740993) (.ok false)
        (stocked 9007199254740993) := by
  have hint : twoToFiftyThree.toInt? = some 9007199254740992 := by decide +kernel
  have hnumber : (float twoToFiftyThree).number? = some ((9007199254740992 : Int) : ℚ) :=
    Binary64.toInt?_eq_some_iff.1 hint
  refine ⟨by decide +kernel, by decide +kernel, by decide +kernel, rfl, ?_,
    runs_set_stocked (by decide +kernel)⟩
  rw [hnumber]
  decide +kernel

end Value
end RecordAccess
