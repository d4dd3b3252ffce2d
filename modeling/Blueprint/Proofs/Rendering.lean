import Blueprint.Node
import Blueprint.Proofs.Text.Hexadecimal
import Blueprint.Proofs.Text.Words

/-!
# Values and variables in generated texts

A value that is not a text is written without underscores (`Value.underscore_notMem_render`), and
only the empty text is written as nothing (`Value.render_eq_empty_iff`).  A variable is one word that
starts with an underscore (`Node.isWord_of_mem_variableName`).
-/

namespace Blueprint

/-! ### Values -/

namespace DecimalForm

variable {digits : List Char}

theorem underscore_notMem_placePoint (hdigits : '_' ∉ digits) (pointZero : Bool)
    (exponent : Int) : '_' ∉ placePoint pointZero digits exponent := by
  have hpadded : ∀ n, '_' ∉ List.replicate n '0' ++ digits := by
    intro n
    simp [hdigits]
  rw [placePoint]
  split
  · cases pointZero <;> simp [hdigits]
  · intro hmem
    rcases List.mem_append.1 hmem with hmem | hmem
    · exact hpadded _ (List.mem_of_mem_take hmem)
    · rcases List.mem_cons.1 hmem with hmem | hmem
      · cases hmem
      · exact hpadded _ (List.mem_of_mem_drop hmem)

theorem underscore_notMem_withExponent (hdigits : '_' ∉ digits) (plusSign : Bool)
    (leading : Int) : '_' ∉ withExponent plusSign digits leading := by
  have hsign : '_' ∉ if leading < 0 then ['-'] else if plusSign then ['+'] else [] := by
    split_ifs <;> decide
  match digits, hdigits with
  | [], _ => simpa [withExponent] using hsign
  | [d], hdigits => simpa [withExponent] using ⟨by simpa using hdigits, hsign⟩
  | d :: e :: rest, hdigits =>
    have hdigits : '_' ≠ d ∧ '_' ≠ e ∧ '_' ∉ rest := by simpa using hdigits
    simpa [withExponent, hdigits] using hsign

theorem underscore_notMem_write (form : DecimalForm) (x : Double) :
    '_' ∉ (form.write x).toList := by
  have hlayout : ∀ decimal, '_' ∉ form.layout decimal := by
    intro decimal
    rw [layout]
    split_ifs
    · exact underscore_notMem_placePoint (by decide) _ _
    · exact underscore_notMem_placePoint (by simp) _ _
    · exact underscore_notMem_withExponent (by simp) _ _
  rw [write, String.toList_ofList]
  intro hmem
  rcases List.mem_append.1 hmem with hmem | hmem
  · split_ifs at hmem <;> simp at hmem
  · exact hlayout _ hmem

theorem placePoint_ne_nil (hdigits : digits ≠ []) (pointZero : Bool) (exponent : Int) :
    placePoint pointZero digits exponent ≠ [] := by
  rw [placePoint]
  split <;> simp [hdigits]

theorem write_ne_empty (form : DecimalForm) (x : Double) : form.write x ≠ "" := by
  have hlayout : ∀ decimal, form.layout decimal ≠ [] := by
    intro decimal
    rw [layout]
    split_ifs
    · exact placePoint_ne_nil (by decide) _ _
    · exact placePoint_ne_nil (by simp) _ _
    · simp [withExponent]
  intro hempty
  have hlist := congrArg String.toList hempty
  rw [write, String.toList_ofList] at hlist
  exact hlayout _ (List.append_eq_nil_iff.1 hlist).2

end DecimalForm

namespace Value

/-- The value is a text. -/
def isText : Value → Bool
  | .text _ => true
  | _ => false

/-- A number is written as a name, as a whole number with its point, or in the form of
expressions. -/
theorem renderDouble_of_forall {P : String → Prop} (x : Double)
    (hnames : ∀ name ∈ ["float('nan')", "-float('inf')", "float('inf')"], P name)
    (hwhole : ∀ sign ∈ ["-", ""], ∀ n, P (sign ++ Nat.repr n ++ ".0"))
    (hwrite : P (expressionForm.write x)) : P (renderDouble x) := by
  rw [renderDouble]
  split_ifs
  · exact hnames _ (by decide)
  · exact hnames _ (by decide)
  · exact hnames _ (by decide)
  · exact hwhole _ (by decide) _
  · exact hwhole _ (by decide) _
  · exact hwrite

theorem underscore_notMem_renderDouble (x : Double) : '_' ∉ (renderDouble x).toList :=
  renderDouble_of_forall (P := fun text => '_' ∉ text.toList) x (by decide) (by simp)
    (DecimalForm.underscore_notMem_write _ x)

theorem underscore_notMem_render {value : Value} (hvalue : value.isText = false) :
    '_' ∉ value.render.toList := by
  cases value with
  | bool b => cases b <;> decide
  | int i =>
    change '_' ∉ i.toInt.repr.toList
    rw [Int.repr_eq_if]
    split_ifs <;> simp
  | float x => exact underscore_notMem_renderDouble x
  | text s => cases hvalue

theorem renderDouble_ne_empty (x : Double) : renderDouble x ≠ "" :=
  renderDouble_of_forall (P := (· ≠ "")) x (by decide) (by simp) (DecimalForm.write_ne_empty _ x)

theorem render_eq_empty_iff {value : Value} : value.render = "" ↔ value = .text "" := by
  cases value with
  | bool b => cases b <;> decide
  | int i =>
    have hne : i.toInt.repr ≠ "" := by
      rw [Int.repr_eq_if]
      split_ifs <;> simp
    exact ⟨fun h => absurd h hne, fun h => by cases h⟩
  | float x => exact ⟨fun h => absurd h (renderDouble_ne_empty x), fun h => by cases h⟩
  | text s => exact ⟨fun h => congrArg Value.text h, fun h => by cases h; rfl⟩

end Value

/-! ### Variables -/

namespace Node

variable {node : Node} {suffix : String}

theorem isWord_of_mem_flattenTag {tag : List Char} {c : Char} (h : c ∈ flattenTag tag) :
    Text.isWord c = true := by
  obtain ⟨d, -, rfl⟩ := List.mem_map.1 h
  split_ifs with hd
  · exact Bool.or_eq_true_iff.2 (.inl hd)
  · rfl

theorem isWord_of_mem_escapeId {id : List Char} {c : Char} (h : c ∈ escapeId id) :
    Text.isWord c = true := by
  obtain ⟨d, -, hd⟩ := List.mem_flatMap.1 h
  rw [escapeChar] at hd
  split_ifs at hd with hplain
  · rw [List.mem_singleton.1 hd]
    exact Bool.or_eq_true_iff.2 (.inl hplain)
  · obtain ⟨byte, -, hbyte⟩ := List.mem_flatMap.1 hd
    rcases List.mem_cons.1 hbyte with rfl | hdigit
    · rfl
    · exact Bool.or_eq_true_iff.2 (.inl (Text.isAlphanum_of_mem_hexDigits hdigit))

theorem isWord_of_mem_variableName (hsuffix : suffix.toList.all Text.isWord = true) :
    ∀ c ∈ (node.variableName suffix).toList, Text.isWord c = true := by
  intro c hc
  rw [variableName, String.toList_ofList] at hc
  rcases List.mem_append.1 hc with hc | hc
  · rcases List.mem_append.1 hc with hc | hc
    · rcases List.mem_cons.1 hc with rfl | hc
      · rfl
      · exact isWord_of_mem_flattenTag hc
    · rcases List.mem_cons.1 hc with rfl | hc
      · rfl
      · exact isWord_of_mem_escapeId hc
  · split_ifs at hc
    · cases hc
    · rcases List.mem_cons.1 hc with rfl | hc
      · rfl
      · exact List.all_eq_true.1 hsuffix c hc

end Node

end Blueprint
