/-
The CSS names of style names. A name in camel case is read back from its CSS name, so that no two
of them share one. A hyphen stands for the capital behind it, and a name of the vendor `ms` has one
in front of all the rest, as if it began with a capital itself.

* `lowerFrom_ascii`: lower case within ASCII;
* `spelled`, `joined`: capitals written with hyphens, and read back;
* `IsCamelCase`, `camelName`: names in camel case, and the style name behind a CSS name;
* `CssNamed`: what there is to say of the CSS name of a style name;
* `declarations`: the CSS properties that a style declares;
* `Component.StyledApart`, `styles_told_apart`: the styles of components.
-/
import LivePage.Proofs.PageReading
import Mathlib

namespace LivePage

/-! ### Lower case within ASCII -/

section

variable {c : Char} {cs : List Char}

lemma isAlphanum_of_isUpper (hc : c.isUpper) : c.isAlphanum := by
  rw [Char.isAlphanum, Char.isAlpha, hc, Bool.true_or, Bool.true_or]

lemma isUpper_iff_toNat : c.isUpper ↔ 0x41 ≤ c.toNat ∧ c.toNat ≤ 0x5A := by
  simp [Char.isUpper, UInt32.le_iff_toNat_le, ← Char.toNat_val]

lemma isLower_iff_toNat : c.isLower ↔ 0x61 ≤ c.toNat ∧ c.toNat ≤ 0x7A := by
  simp [Char.isLower, UInt32.le_iff_toNat_le, ← Char.toNat_val]

lemma ascii_of_isAlphanum (hc : c.isAlphanum) : c.toNat < 0x80 := by
  simp only [Char.isAlphanum, Char.isAlpha, Bool.or_eq_true, isUpper_iff_toNat, isLower_iff_toNat,
    Char.isDigit_iff_toNat] at hc
  have hnine : '9'.toNat = 0x39 := rfl
  omega

/-- A run that begins behind ASCII has none of its characters. -/
lemma CharRun.holds_eq_false {run : CharRun} (hrun : 0x80 ≤ run.first) (hc : c.toNat < 0x80) :
    run.holds c = false := by
  have hfirst : ¬run.first ≤ c.toNat := by omega
  rw [holds, decide_eq_false hfirst, Bool.false_and, Bool.false_and]

/-- The first run of both tables is that of the capitals of ASCII. -/
lemma CharRun.holds_capitals (c : Char) : (CharRun.mk 0x41 0x5A 1).holds c = c.isUpper := by
  rw [Bool.eq_iff_iff, isUpper_iff_toNat]
  simp [holds, Nat.mod_one]

lemma isUpperCase_ascii (hc : c.toNat < 0x80) : isUpperCase c = c.isUpper := by
  have htable : upperRuns = ⟨0x41, 0x5A, 1⟩ :: upperRuns.tail := rfl
  have hfirst : ∀ run ∈ upperRuns.tail, 0x80 ≤ run.first := by decide +kernel
  have hothers : upperRuns.tail.any (·.holds c) = false :=
    List.any_eq_false.mpr fun run hrun => by simp [CharRun.holds_eq_false (hfirst run hrun) hc]
  rw [isUpperCase, htable, List.any_cons, hothers, Bool.or_false, CharRun.holds_capitals]

lemma lowerChar_ascii (hc : c.toNat < 0x80) : lowerChar c = c.toLower := by
  have htable : lowerRuns = (⟨0x41, 0x5A, 1⟩, 32) :: lowerRuns.tail := rfl
  have hfirst : ∀ run ∈ lowerRuns.tail, 0x80 ≤ run.1.first := by decide +kernel
  have hothers : lowerRuns.tail.find? (·.1.holds c) = none :=
    List.find?_eq_none.mpr fun run hrun => by simp [CharRun.holds_eq_false (hfirst run hrun) hc]
  rw [lowerChar, htable, List.find?_cons, hothers, CharRun.holds_capitals]
  by_cases hupper : c.isUpper
  · rw [Char.toLower_eq_of_isUpper hupper, hupper]
    rfl
  · rw [Char.toLower_eq_of_not_isUpper hupper, Bool.eq_false_iff.mpr hupper]

/-- Within ASCII each character is lower-cased by itself, whatever stands around it. -/
lemma lowerFrom_ascii (hcs : ∀ c ∈ cs, c.toNat < 0x80) (before : List Char) :
    lowerFrom before cs = cs.map Char.toLower := by
  induction cs generalizing before with
  | nil => rfl
  | cons c cs ih =>
      rw [List.forall_mem_cons] at hcs
      have hne (d : Char) (hd : ¬d.toNat < 0x80) : (c == d) = false :=
        beq_false_of_ne fun heq => hd (heq ▸ hcs.1)
      rw [lowerFrom, hne 'İ' (by decide), hne 'Σ' (by decide), lowerChar_ascii hcs.1, ih hcs.2]
      rfl

lemma toUpper_toLower (hc : c.isUpper) : c.toLower.toUpper = c := by
  rw [Char.toUpper_toLower_eq_toUpper,
    Char.toUpper_eq_of_not_isLower (Char.not_isLower_of_isUpper hc)]

end

/-! ### Hyphens -/

/-- A name with each capital as a hyphen and its small letter. -/
def spelled : List Char → List Char
  | [] => []
  | c :: rest => if c.isUpper then '-' :: c.toLower :: spelled rest else c :: spelled rest

/-- A name in which what stands behind a hyphen is a capital, without the hyphen. -/
def joined : List Char → List Char
  | [] => []
  | '-' :: c :: rest => c.toUpper :: joined rest
  | c :: rest => c :: joined rest

section

variable {c : Char} {cs : List Char}

lemma joined_cons (hc : c ≠ '-') (cs : List Char) : joined (c :: cs) = c :: joined cs := by
  cases cs <;> simp [joined, hc]

/-- **Capitals are read back** from their hyphens, where no hyphen stands for itself. -/
lemma joined_spelled (hcs : '-' ∉ cs) : joined (spelled cs) = cs := by
  induction cs with
  | nil => rfl
  | cons c cs ih =>
      rw [List.mem_cons, not_or] at hcs
      rw [spelled]
      split_ifs with hc
      · rw [joined, toUpper_toLower hc, ih hcs.2]
      · rw [joined_cons (Ne.symm hcs.1), ih hcs.2]

lemma map_toLower_hyphenated (cs : List Char) : (hyphenated cs).map Char.toLower = spelled cs := by
  induction cs with
  | nil => rfl
  | cons c cs ih =>
      have hhyphen : '-'.toLower = '-' := rfl
      rw [hyphenated, List.flatMap_cons, ← hyphenated, List.map_append, ih, spelled]
      split_ifs with hc
      · rw [List.map_cons, List.map_singleton, hhyphen]
        rfl
      · rw [List.map_singleton, Char.toLower_eq_of_not_isUpper hc]
        rfl

lemma ascii_of_mem_hyphenated (hcs : ∀ c ∈ cs, c.isAlphanum) :
    ∀ c ∈ hyphenated cs, c.toNat < 0x80 := by
  intro d hd
  obtain ⟨c, hc, hd⟩ := List.mem_flatMap.mp hd
  have hascii := ascii_of_isAlphanum (hcs c hc)
  split_ifs at hd
  · rw [List.mem_pair] at hd
    rcases hd with rfl | rfl
    · decide
    · exact hascii
  · rwa [List.mem_singleton.mp hd]

end

/-! ### Vendors -/

/-- A style name of the vendor `ms`: it stands in front of a capital. -/
def IsVendorName (name : String) : Prop :=
  ∃ c rest, c.isUpper ∧ name.toList = 'm' :: 's' :: c :: rest

/-- A name in which the vendor `Ms` in front of a capital begins with a small letter itself. -/
def smallVendor : List Char → List Char
  | 'M' :: 's' :: c :: rest =>
    if isUpperCase c then 'm' :: 's' :: c :: rest else 'M' :: 's' :: c :: rest
  | cs => cs

section

variable {c : Char} {cs rest : List Char}

lemma capitalVendor_of_isUpper (hc : c.isUpper) :
    capitalVendor ('m' :: 's' :: c :: rest) = 'M' :: 's' :: c :: rest := by
  have hupper := isUpperCase_ascii (ascii_of_isAlphanum (isAlphanum_of_isUpper hc))
  rw [capitalVendor, hupper, if_pos hc]

lemma capitalVendor_eq_self (hcs : ∀ c ∈ cs, c.isAlphanum)
    (hvendor : ¬∃ c rest, c.isUpper ∧ cs = 'm' :: 's' :: c :: rest) : capitalVendor cs = cs := by
  fun_cases capitalVendor cs with
  | case1 c rest hc =>
      rw [isUpperCase_ascii (ascii_of_isAlphanum (hcs c (by simp)))] at hc
      exact absurd ⟨c, rest, hc, rfl⟩ hvendor
  | case2 => rfl
  | case3 => rfl

/-- The vendor is read back where no name begins with a capital `M` of its own. -/
lemma smallVendor_capitalVendor (hcs : cs.head? ≠ some 'M') :
    smallVendor (capitalVendor cs) = cs := by
  fun_cases capitalVendor cs with
  | case1 c rest hc => rw [smallVendor, if_pos hc]
  | case2 c rest hc => rfl
  | case3 cs hvendor =>
      fun_cases smallVendor cs with
      | case1 => simp at hcs
      | case2 => rfl
      | case3 => rfl

end

/-! ### Names in camel case -/

/-- A name in camel case: letters and digits of ASCII, of which the first is a small letter. -/
structure IsCamelCase (name : String) : Prop where
  first : name.toList.head?.any Char.isLower
  plain : ∀ c ∈ name.toList, c.isAlphanum

instance (name : String) : Decidable (IsCamelCase name) :=
  decidable_of_iff (name.toList.head?.any Char.isLower ∧ name.toList.all Char.isAlphanum)
    ⟨fun h => ⟨h.1, List.all_eq_true.mp h.2⟩, fun h => ⟨h.first, List.all_eq_true.mpr h.plain⟩⟩

/-- The style name behind a CSS name: `fontSize` is that of `font-size`. -/
def camelName (css : String) : String := String.ofList (smallVendor (joined css.toList))

section

variable {c : Char} {rest : List Char} {name : String}

lemma isAlphanum_capitalVendor {cs : List Char} (hcs : ∀ c ∈ cs, c.isAlphanum) :
    ∀ c ∈ capitalVendor cs, c.isAlphanum := by
  fun_cases capitalVendor cs with
  | case1 c rest hc =>
      rw [List.forall_mem_cons] at hcs ⊢
      exact ⟨by decide, hcs.2⟩
  | case2 => exact hcs
  | case3 => exact hcs

/-- The CSS name of a name of letters and digits has hyphens for its capitals. -/
lemma toList_cssName (hname : ∀ c ∈ name.toList, c.isAlphanum) :
    (cssName name).toList = spelled (capitalVendor name.toList) := by
  have hascii := ascii_of_mem_hyphenated (isAlphanum_capitalVendor hname)
  rw [cssName, lowerCase, String.toList_ofList, String.toList_ofList, lowerFrom_ascii hascii,
    map_toLower_hyphenated]

namespace IsCamelCase

lemma exists_eq_cons (hname : IsCamelCase name) :
    ∃ c rest, name.toList = c :: rest ∧ c.isLower := by
  have hfirst := hname.first
  rcases hcs : name.toList with _ | ⟨c, rest⟩
  · simp [hcs] at hfirst
  · exact ⟨c, rest, rfl, by simpa [hcs] using hfirst⟩

/-- **A name in camel case is read back** from its CSS name. -/
lemma camelName_cssName (hname : IsCamelCase name) : camelName (cssName name) = name := by
  -- the name has no hyphen of its own, and no `M` in front that could be taken for the vendor's
  have hhyphen : '-' ∉ capitalVendor name.toList := fun hmem =>
    absurd (isAlphanum_capitalVendor hname.plain _ hmem) (by decide)
  have hcapital : name.toList.head? ≠ some 'M' := by
    obtain ⟨c, rest, heq, hlower⟩ := hname.exists_eq_cons
    rw [heq, List.head?_cons, ne_eq, Option.some.injEq]
    rintro rfl
    exact absurd hlower (by decide)
  rw [camelName, toList_cssName hname.plain, joined_spelled hhyphen,
    smallVendor_capitalVendor hcapital, String.ofList_toList]

lemma cssName_vendor (hname : IsCamelCase name) (hc : c.isUpper)
    (heq : name.toList = 'm' :: 's' :: c :: rest) :
    (cssName name).toList = "-ms-".toList ++ c.toLower :: spelled rest := by
  rw [toList_cssName hname.plain, heq, capitalVendor_of_isUpper hc]
  simp [spelled, hc]

lemma cssName_ordinary (hname : IsCamelCase name) (hvendor : ¬IsVendorName name) :
    (cssName name).toList = spelled name.toList := by
  rw [toList_cssName hname.plain, capitalVendor_eq_self hname.plain hvendor]

/-- Only the vendor's names have a hyphen in front. -/
lemma head?_cssName_iff (hname : IsCamelCase name) :
    (cssName name).toList.head? = some '-' ↔ IsVendorName name := by
  constructor
  · intro hhead
    by_contra hvendor
    obtain ⟨c, rest, heq, hlower⟩ := hname.exists_eq_cons
    rw [hname.cssName_ordinary hvendor, heq, spelled, if_neg (Char.not_isUpper_of_isLower hlower),
      List.head?_cons, Option.some.injEq] at hhead
    exact absurd (hhead ▸ hlower) (by decide)
  · rintro ⟨c, rest, hc, heq⟩
    rw [hname.cssName_vendor hc heq]
    rfl

end IsCamelCase

end

/-- What there is to say of the CSS name of a name in camel case. -/
structure CssNamed (name : String) : Prop where
  /-- It is read back as the name. -/
  recovered : camelName (cssName name) = name
  /-- No other name in camel case has it. -/
  unshared : ∀ other, IsCamelCase other → other ≠ name → cssName other ≠ cssName name
  /-- That of a vendor's name has the vendor between hyphens. -/
  vendor : ∀ c rest, c.isUpper → name.toList = 'm' :: 's' :: c :: rest →
    (cssName name).toList = "-ms-".toList ++ c.toLower :: spelled rest
  /-- That of any other name has a hyphen and the small letter for each capital. -/
  ordinary : ¬IsVendorName name → (cssName name).toList = spelled name.toList
  /-- The vendor's names are those with a hyphen in front. -/
  hyphen_iff : (cssName name).toList.head? = some '-' ↔ IsVendorName name

lemma IsCamelCase.cssNamed {name : String} (hname : IsCamelCase name) : CssNamed name where
  recovered := hname.camelName_cssName
  unshared other hother hne hsame := by
    rw [← hother.camelName_cssName, hsame, hname.camelName_cssName] at hne
    exact hne rfl
  vendor _ _ hc heq := hname.cssName_vendor hc heq
  ordinary := hname.cssName_ordinary
  hyphen_iff := hname.head?_cssName_iff

/-! ### Styles -/

/-- The CSS properties that a style declares, with their values. -/
def declarations (style : Members Value) : Members String :=
  style.map fun (name, v) => (cssName name, cssValue name v)

/-- A declaration as it is written. -/
def declarationText (declaration : String × String) : String :=
  declaration.1 ++ ": " ++ declaration.2

lemma styleText_eq (style : Members Value) :
    styleText style = "; ".intercalate ((declarations style).map declarationText) := by
  rw [styleText, declarations, List.map_map]
  rfl

lemma keys_declarations (style : Members Value) :
    (declarations style).keys = style.keys.map cssName := by
  rw [declarations, Members.keys, Members.keys, List.map_map, List.map_map]
  rfl

/-- The names of a style are read back from the properties that it declares. -/
lemma map_camelName_declarations {style : Members Value}
    (hstyle : ∀ name ∈ style.keys, IsCamelCase name) :
    (declarations style).keys.map camelName = style.keys := by
  rw [keys_declarations, List.map_map]
  exact (List.map_congr_left fun name hname => (hstyle name hname).camelName_cssName).trans
    (List.map_id _)

lemma Attributes.styleValue_eq (a : Attributes) : a.styleValue =
    if a.styleMembers = none then .null else .obj (a.styleMembers.getD []) := by
  rw [styleValue]
  cases a.styleMembers <;> rfl

namespace Component

/-- The names in the style of a component. -/
def styleNames (c : Component) : List String := (c.attributes.style.value?.getD []).keys

section

variable {store : Store} {c : Component} {name text : String} {v : Value}

lemma keys_styleMembers (c : Component) :
    Members.keys (c.attributes.styleMembers.getD []) = c.styleNames := by
  rw [Attributes.styleMembers, styleNames]
  cases c.attributes.style.value? with
  | none => rfl
  | some style => exact Members.keys_mapValues _ style

lemma mem_keys_shownStyle_iff :
    name ∈ c.shownStyle.keys ↔ name ∈ c.styleNames ∨ c.kind = .container ∧ name = "gap" := by
  rw [← keys_styleMembers]
  cases c with
  | container a arrangement children =>
      rw [shownStyle, Members.mem_keys_put, or_comm]
      simp [kind, attributes]
  | _ => simp [shownStyle, kind]

lemma nodup_keys_shownStyle (hnodup : c.styleNames.Nodup) : c.shownStyle.keys.Nodup := by
  rw [← keys_styleMembers] at hnodup
  cases c with
  | container a arrangement children => exact Members.nodup_keys_put hnodup
  | _ => exact hnodup

/-- A component has one property for its style, which is null when it has none. -/
lemma mem_props_style_iff : ("style", v) ∈ (c.element store).props ↔
    v = if c.kind ≠ .container ∧ c.attributes.styleMembers = none then .null
      else .obj c.shownStyle := by
  cases c with
  | container a arrangement children => simp [element, containerProps, shownStyle, kind]
  | text | input | button =>
      simp [element, textProps, inputProps, buttonProps, Attributes.styleValue_eq, shownStyle, kind,
        attributes]

lemma shownStyle_eq_nil (hkind : c.kind ≠ .container) (hstyle : c.attributes.styleMembers = none) :
    c.shownStyle = [] := by
  cases c with
  | container a arrangement children => exact absurd rfl hkind
  | _ => simp [shownStyle, hstyle]

/-- The style of a component is written unless it is empty. -/
lemma mem_attributes_style_iff : ("style", text) ∈ (c.element store).attributes ↔
    c.shownStyle ≠ [] ∧ text = styleText c.shownStyle := by
  have hid : ("style", text) ≠ ("data-id", (c.element store).id) := by simp
  have hwritten : ("style", text) ∈ (c.element store).attributes ↔
      ∃ v, ("style", v) ∈ (c.element store).props ∧ shownText? "style" v = some text := by
    rw [(element_plain c).attributes_eq, Element.shown, List.mem_cons, or_iff_right hid,
      List.mem_filterMap]
    simp
  simp only [hwritten, mem_props_style_iff, exists_eq_left, styleText_eq_shownCss]
  split_ifs with hnone
  · simp [shownText?, shownStyle_eq_nil hnone.1 hnone.2]
  · generalize c.shownStyle = style
    have hname : ¬"style" ≠ "style" := not_not_intro rfl
    rw [shownText?, if_neg hname]
    by_cases hempty : style = []
    · simp [hempty]
    · rw [if_neg hempty, Option.some.injEq, eq_comm, and_iff_right hempty]

end

/-- What there is to say of the style of a component, wherever it is shown. -/
structure StyledApart (c : Component) : Prop where
  /-- It is written as its declarations, one behind the other. -/
  written : ∀ store text, ("style", text) ∈ (c.element store).attributes ↔
    c.shownStyle ≠ [] ∧
      text = "; ".intercalate ((declarations c.shownStyle).map declarationText)
  /-- There is one for each name in the style of the component, and for the gap of a container. -/
  named : ∀ name, name ∈ c.shownStyle.keys ↔
    name ∈ c.styleNames ∨ c.kind = .container ∧ name = "gap"
  /-- The names are read back from the properties that are declared. -/
  recovered : (declarations c.shownStyle).keys.map camelName = c.shownStyle.keys
  /-- No property is declared twice where no name is given twice. -/
  nodup : c.styleNames.Nodup → (declarations c.shownStyle).keys.Nodup

end Component

/-- **Style names are told apart** in CSS. Those in camel case are read back from their CSS names,
the vendor's among them, so that a component with different ones declares different properties. -/
theorem styles_told_apart :
    (∀ name, IsCamelCase name → CssNamed name) ∧
      ∀ c : Component, (∀ name ∈ c.styleNames, IsCamelCase name) → c.StyledApart := by
  refine ⟨fun name hname => hname.cssNamed, fun c hnames => ?_⟩
  have hshown : ∀ name ∈ c.shownStyle.keys, IsCamelCase name := by
    intro name hname
    rcases Component.mem_keys_shownStyle_iff.mp hname with hown | ⟨-, rfl⟩
    · exact hnames name hown
    · decide
  have hrecovered := map_camelName_declarations hshown
  refine ⟨fun store text => ?_, fun name => Component.mem_keys_shownStyle_iff, hrecovered,
    fun hnodup => ?_⟩
  · rw [Component.mem_attributes_style_iff, styleText_eq]
  · have hkeys := Component.nodup_keys_shownStyle hnodup
    rw [← hrecovered] at hkeys
    exact hkeys.of_map _

/-- A container with names that differ in their capitals alone, or in the vendor. -/
def vendorStyled : Component :=
  .container { id := "c", className := .absent, style := .given [("msTransform", .str "none"),
      ("mSTransform", .str "none"), ("mstransform", .str "none"), ("ms2T", .int 1),
      ("msT", .int 2)] }
    { direction := .absent, gap := .absent, align := .absent } .absent

theorem styles_told_apart_vendorStyled :
    (∀ name ∈ vendorStyled.styleNames, IsCamelCase name) ∧ vendorStyled.styleNames.Nodup ∧
      CssNamed "msTransform" ∧ vendorStyled.StyledApart ∧
      (declarations vendorStyled.shownStyle).keys =
        ["-ms-transform", "m-s-transform", "mstransform", "ms2-t", "-ms-t", "gap"] := by
  have hnames : ∀ name ∈ vendorStyled.styleNames, IsCamelCase name := by decide
  exact ⟨hnames, by decide, styles_told_apart.1 _ (by decide), styles_told_apart.2 _ hnames,
    by decide +kernel⟩

end LivePage
