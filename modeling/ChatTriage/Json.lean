import ChatTriage.Number.Double

/-!
# JSON values

The values that travel between the desk, its stores and its transports. Whole numbers are exact and
kept apart from binary ones, and the fields of an object keep their order.
-/

namespace ChatTriage

/-- A JSON value. -/
inductive Json where
  | null
  | bool (value : Bool)
  | int (value : Int)
  | float (value : Double)
  | str (value : String)
  | arr (items : List Json)
  | obj (fields : List (String × Json))
  deriving Repr, Inhabited

namespace Json

mutual

/-- Whether two values are written alike. -/
def beq : Json → Json → Bool
  | .null, .null => true
  | .bool a, .bool b => a == b
  | .int a, .int b => a == b
  | .float a, .float b => a == b
  | .str a, .str b => a == b
  | .arr xs, .arr ys => beqItems xs ys
  | .obj fs, .obj gs => beqFields fs gs
  | _, _ => false

/-- `beq`, item by item. -/
def beqItems : List Json → List Json → Bool
  | [], [] => true
  | x :: xs, y :: ys => beq x y && beqItems xs ys
  | _, _ => false

/-- `beq`, field by field. -/
def beqFields : List (String × Json) → List (String × Json) → Bool
  | [], [] => true
  | (k, x) :: fs, (l, y) :: gs => k == l && beq x y && beqFields fs gs
  | _, _ => false

end

mutual

/-- Values that compare equal are equal. -/
theorem eq_of_beq : ∀ {a b : Json}, beq a b = true → a = b
  | .null, .null, _ => rfl
  | .bool _, .bool _, h => by simpa [beq] using h
  | .int _, .int _, h => by simpa [beq] using h
  | .float _, .float _, h => by simpa [beq] using h
  | .str _, .str _, h => by simpa [beq] using h
  | .arr xs, .arr ys, h => by
    have same : xs = ys := eq_of_beqItems (by simpa [beq] using h)
    rw [same]
  | .obj fs, .obj gs, h => by
    have same : fs = gs := eq_of_beqFields (by simpa [beq] using h)
    rw [same]

/-- So are lists of them. -/
theorem eq_of_beqItems : ∀ {xs ys : List Json}, beqItems xs ys = true → xs = ys
  | [], [], _ => rfl
  | x :: xs, y :: ys, h => by
    have h : beq x y = true ∧ beqItems xs ys = true := by simpa [beqItems] using h
    rw [eq_of_beq h.1, eq_of_beqItems h.2]

/-- So are fields. -/
theorem eq_of_beqFields : ∀ {fs gs : List (String × Json)}, beqFields fs gs = true → fs = gs
  | [], [], _ => rfl
  | (k, x) :: fs, (l, y) :: gs, h => by
    have h : (k = l ∧ beq x y = true) ∧ beqFields fs gs = true := by simpa [beqFields] using h
    rw [h.1.1, eq_of_beq h.1.2, eq_of_beqFields h.2]

end

mutual

/-- A value compares equal to itself. -/
theorem beq_self : ∀ a : Json, beq a a = true
  | .null => rfl
  | .bool _ => by simp [beq]
  | .int _ => by simp [beq]
  | .float _ => by simp [beq]
  | .str _ => by simp [beq]
  | .arr xs => by simpa [beq] using beqItems_self xs
  | .obj fs => by simpa [beq] using beqFields_self fs

/-- So does a list. -/
theorem beqItems_self : ∀ xs : List Json, beqItems xs xs = true
  | [] => rfl
  | x :: xs => by simp [beqItems, beq_self x, beqItems_self xs]

/-- So do fields. -/
theorem beqFields_self : ∀ fs : List (String × Json), beqFields fs fs = true
  | [] => rfl
  | (_, x) :: fs => by simp [beqFields, beq_self x, beqFields_self fs]

end

instance : DecidableEq Json := fun a b =>
  if h : beq a b = true then .isTrue (eq_of_beq h)
  else .isFalse fun hab => h (hab ▸ beq_self a)

/-- Sets a field: in its place if the name is there, else at the end. -/
def put (fields : List (String × Json)) (name : String) (value : Json) : List (String × Json) :=
  if fields.any (·.1 == name) then fields.map fun f => if f.1 == name then (name, value) else f
  else fields ++ [(name, value)]

/-- The value under a name. -/
def find? (fields : List (String × Json)) (name : String) : Option Json :=
  (fields.find? (·.1 == name)).map (·.2)

/-- A text, or null. -/
def ofText? : Option String → Json
  | some s => .str s
  | none => .null

/-- A list of texts. -/
def ofTexts (texts : List String) : Json :=
  .arr (texts.map .str)

end Json

end ChatTriage
