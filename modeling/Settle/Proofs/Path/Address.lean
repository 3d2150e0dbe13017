import Settle.Proofs.Path.Printing
import Settle.Proofs.Value.Occurs

/-!
# Addresses

An address is the way from the root of a tree to one of its nodes, by keys of maps and by places in
lists. The same address can be written in many ways: a key behind a dot or between quotation marks,
each of its characters as it is or by an escape, and a place behind a dot or in brackets. Whichever
way is taken, the path that is read leads to the node at the address, and nowhere if there is none.
-/

namespace Settle

/-- A part of an address: into a map, or into a list. -/
inductive Hop where
  | key (name : Text)
  | place (i : Nat)

/-- An address begins with a key that is a name. Keys are made of characters. -/
structure Address where
  root       : Text
  hops       : List Hop
  isName     : Path.IsName root
  characters : ∀ k, .key k ∈ hops → ∀ c ∈ k, ¬ c.isSurrogate

/-- All parts of an address. -/
def Address.parts (a : Address) : List Hop := .key a.root :: a.hops

/-! ### Nodes of a tree -/

namespace Value

/-- The keys of every map in a value differ from one another. -/
def KeysDiffer (v : Value) : Prop := ∀ es, Occurs (.map es) v → (es.map Prod.fst).Nodup

/-- A node lies at the end of an address in a tree. -/
inductive LiesAt (node : Value) : List Hop → Value → Prop where
  | here : LiesAt node [] node
  | entry {k : Text} {v : Value} {es : List (Text × Value)} {hops : List Hop} (mem : (k, v) ∈ es)
      (h : LiesAt node hops v) : LiesAt node (.key k :: hops) (.map es)
  | item {i : Nat} {v : Value} {items : List Value} {hops : List Hop} (get : items[i]? = some v)
      (h : LiesAt node hops v) : LiesAt node (.place i :: hops) (.list items)

lemma KeysDiffer.of_occurs {v w : Value} (h : v.KeysDiffer) (hw : Occurs w v) : w.KeysDiffer :=
  fun es hes => h es (hes.trans hw)

@[simp] lemma keysDiffer_null : KeysDiffer .null := by rintro es ⟨⟩

@[simp] lemma keysDiffer_int (n : Int) : KeysDiffer (.int n) := by rintro es ⟨⟩

@[simp] lemma keysDiffer_str (t : Text) : KeysDiffer (.str t) := by rintro es ⟨⟩

@[simp] lemma keysDiffer_list_iff {items : List Value} :
    KeysDiffer (.list items) ↔ ∀ v ∈ items, v.KeysDiffer := by
  constructor
  · intro h v hv
    exact h.of_occurs (.item hv .whole)
  · intro h es hes
    obtain - | ⟨mem, hes⟩ := hes
    exact h _ mem es hes

@[simp] lemma keysDiffer_map_iff {es : List (Text × Value)} :
    KeysDiffer (.map es) ↔ (es.map Prod.fst).Nodup ∧ ∀ e ∈ es, e.2.KeysDiffer := by
  constructor
  · intro h
    exact ⟨h es .whole, fun e he => h.of_occurs (.entry he .whole)⟩
  · rintro ⟨hkeys, h⟩ es' hes'
    obtain - | - | ⟨mem, hes'⟩ := hes'
    · exact hkeys
    · exact h _ mem es' hes'

/-- Where keys differ, an entry is what is found under its key. -/
lemma lookup_eq_some_iff_mem {es : List (Text × Value)} (h : (es.map Prod.fst).Nodup) {k : Text}
    {v : Value} : lookup k es = some v ↔ (k, v) ∈ es := by
  constructor
  · exact mem_of_lookup
  · intro hmem
    obtain ⟨before, behind, rfl⟩ := List.append_of_mem hmem
    apply List.lookup_eq_some_iff.mpr
    refine ⟨before, behind, rfl, ?_⟩
    intro e he
    simp only [List.map_append, List.map_cons, List.nodup_append] at h
    have hne : e.1 ≠ k := h.2.2 e.1 (List.mem_map_of_mem he) k (by simp)
    simpa using hne.symm

end Value

/-! ### Steps for an address -/

/-- A step goes where a part of an address does. A key can be stepped to as an attribute, too. -/
inductive Hop.Agrees : Hop → Step → Prop where
  | field (k : Text) : Agrees (.key k) (.field k)
  | key (k : Text) : Agrees (.key k) (.key k)
  | index (i : Nat) : Agrees (.place i) (.index i)

/-- Steps that agree with an address lead to the node that lies there. -/
lemma Value.at?_eq_some_iff {hops : List Hop} {steps : List Step}
    (h : List.Forall₂ Hop.Agrees hops steps) {tree node : Value} (htree : tree.KeysDiffer) :
    at? steps tree = some node ↔ node.LiesAt hops tree := by
  induction h generalizing tree with
  | nil =>
    constructor
    · intro h
      cases h
      exact .here
    · intro h
      cases h
      rfl
  | @cons hop s hops steps hop_s _ ih =>
    rw [at?, Option.bind_eq_some_iff]
    constructor
    · rintro ⟨v, hchild, hv⟩
      have hlies := (ih (htree.of_occurs (occurs_of_child? hchild))).mp hv
      cases hop_s with
      | field k | key k =>
        cases tree with
        | map es => exact .entry (mem_of_lookup hchild) hlies
        | _ => cases hchild
      | index i =>
        cases tree with
        | list items => exact .item hchild hlies
        | _ => cases hchild
    · intro h
      cases h with
      | entry mem h =>
        have hfound := (lookup_eq_some_iff_mem (htree _ .whole)).mpr mem
        have hv := (ih (htree.of_occurs (.entry mem .whole))).mpr h
        cases hop_s <;> exact ⟨_, hfound, hv⟩
      | item get h =>
        have hv := (ih (htree.of_occurs (.item (List.mem_of_getElem? get) .whole))).mpr h
        cases hop_s
        exact ⟨_, get, hv⟩

/-! ### Spellings -/

namespace Path

/-- The ways to write a character between quotation marks: as it is, by a letter, by its number, or
by a pair of surrogates. -/
inductive Piece (c : CodePoint) : Text → Prop where
  | plain (mark : c ≠ '"') (backslash : c ≠ '\\') : Piece c [c]
  | letter {l : CodePoint} (mem : (l, c) ∈ letters) : Piece c ['\\', l]
  | number {e : Text} (number : NumberEscape e c.val) : Piece c e
  | pair {e ds : Text} {high low : Nat} (number : NumberEscape e high)
      (digits : HexNumeral 4 ds low) (units : c.units = [high, low]) : Piece c (e ++ ("\\u" ++ ds))

/-- A text writes a key, character by character. -/
def Quotes (k t : Text) : Prop := ∃ pieces, List.Forall₂ Piece k pieces ∧ t = pieces.flatten

/-- No character reaches over what is written behind it. -/
lemma Quotes.spells {k t : Text} (h : Quotes k t) (hk : ∀ c ∈ k, ¬ c.isSurrogate) :
    Spells t k := by
  obtain ⟨pieces, hpieces, rfl⟩ := h
  induction hpieces with
  | nil => exact .nil
  | @cons c e k pieces hpiece _ ih =>
    obtain ⟨hc, hk⟩ := List.forall_mem_cons.mp hk
    rw [List.flatten_cons]
    cases hpiece with
    | plain mark backslash => exact .plain mark backslash (ih hk)
    | letter mem => exact .escape (.letter mem) (ih hk)
    | number number =>
      apply Spells.escape _ (ih hk)
      refine .number number fun hhigh => ?_
      simp [CodePoint.isSurrogate, hhigh] at hc
    | pair number digits units => exact .escape (.pair number digits units) (ih hk)

/-- Every key can be written, each character by a long escape. -/
lemma exists_quotes (k : Text) : ∃ t, Quotes k t := by
  refine ⟨_, k.map fun c => "\\U" ++ Text.hex 8 c.val, ?_, rfl⟩
  rw [List.forall₂_map_right_iff, List.forall₂_same]
  intro c _
  have hlt : c.val < 16 ^ 8 := by
    have := c.isLt
    omega
  exact .number (.long (hexNumeral_hex (by decide) hlt))

end Path

namespace Hop

/-- A text is a part of an address in some notation. Only a key that is a name can stand behind a
dot. -/
inductive Spelled : Hop → Text → Prop where
  | name {k : Text} (h : Path.IsName k) : Spelled (.key k) ("." ++ k)
  | quoted {k t : Text} (h : Path.Quotes k t) : Spelled (.key k) ("[\"" ++ (t ++ "\"]"))
  | dotted {i : Nat} {ds : Text} (h : Path.Numeral ds i) : Spelled (.place i) ("." ++ ds)
  | index {i : Nat} {ds : Text} (h : Path.Numeral ds i) :
      Spelled (.place i) ("[" ++ (ds ++ "]"))

/-- What spells a part of an address is a segment, whose step goes there. -/
lemma Spelled.exists_denotes {hop : Hop} {u : Text} (h : hop.Spelled u)
    (hkey : ∀ k, hop = .key k → ∀ c ∈ k, ¬ c.isSurrogate) :
    ∃ s, Path.Denotes u s ∧ hop.Agrees s := by
  cases h with
  | name h => exact ⟨_, .name h, .field _⟩
  | quoted h => exact ⟨_, .key (h.spells (hkey _ rfl)), .key _⟩
  | dotted h => exact ⟨_, .dotted h, .index _⟩
  | index h => exact ⟨_, .index h, .index _⟩

/-- Every part of an address can be spelled, if its place has a numeral that can be read. -/
lemma exists_spelled {hop : Hop} (h : ∀ i, hop = .place i → (Decimal.ofNat i).length ≤ 4300) :
    ∃ u, hop.Spelled u := by
  cases hop with
  | key k =>
    obtain ⟨t, ht⟩ := Path.exists_quotes k
    exact ⟨_, .quoted ht⟩
  | place i => exact ⟨_, .dotted (Path.numeral_ofNat (h i rfl))⟩

/-- What spells the parts of an address are segments, whose steps go where the parts do. -/
lemma exists_segments {hops : List Hop} {us : List Text} (h : List.Forall₂ Spelled hops us)
    (hkeys : ∀ k, .key k ∈ hops → ∀ c ∈ k, ¬ c.isSurrogate) :
    ∃ l : List (Text × Step), (∀ s ∈ l, Path.Denotes s.1 s.2) ∧ l.map Prod.fst = us ∧
      List.Forall₂ Agrees hops (l.map Prod.snd) := by
  induction h with
  | nil => exact ⟨[], by simp, rfl, .nil⟩
  | @cons hop u hops us hu _ ih =>
    obtain ⟨s, hs, hagrees⟩ := hu.exists_denotes fun k hk => hkeys k (by simp [hk])
    obtain ⟨l, hl, rfl, hrest⟩ := ih fun k hk => hkeys k (List.mem_cons_of_mem hop hk)
    exact ⟨(u, s) :: l, List.forall_mem_cons.mpr ⟨hs, hl⟩, rfl, .cons hagrees hrest⟩

end Hop

/-! ### Keys made of digits -/

namespace Path

/-- A name does not consist of digits. -/
lemma IsName.not_digits {n : Text} (h : IsName n) : ¬ ∀ c ∈ n, c.isDigit := by
  intro hdigits
  cases h with
  | @intro c t first => exact not_isDigit_of_begins first (hdigits c (by simp))

lemma eq_of_lookup_singleton {name k : Text} {v w : Value}
    (h : Value.lookup name [(k, v)] = some w) : name = k := by
  have hmem := Value.mem_of_lookup h
  simp only [List.mem_singleton, Prod.mk.injEq] at hmem
  exact hmem.1

/-- A segment that reaches a key made of digits writes it between quotation marks. -/
lemma Denotes.exists_spells {u : Text} {s : Step} (h : Denotes u s) {k : Text} {v w : Value}
    (hk : ∀ c ∈ k, c.isDigit) (hchild : s.child? (.map [(k, v)]) = some w) :
    ∃ t, Spells t k ∧ u = "[\"" ++ (t ++ "\"]") := by
  cases h with
  | name h =>
    obtain rfl := eq_of_lookup_singleton hchild
    exact absurd hk h.not_digits
  | dotted | index => cases hchild
  | key h =>
    obtain rfl := eq_of_lookup_singleton hchild
    exact ⟨_, h, rfl⟩

end Path

/-! ### Addresses -/

namespace Address

/-- A text spells an address: its first key, and then each part in some notation. -/
def Spelled (a : Address) (t : Text) : Prop :=
  ∃ us, List.Forall₂ Hop.Spelled a.hops us ∧ t = a.root ++ us.flatten

/-- What spells an address has a form, whose steps go where the address does. -/
lemma Spelled.exists_form {a : Address} {t : Text} (h : a.Spelled t) :
    ∃ f : Path.Form, f.text = t ∧ List.Forall₂ Hop.Agrees a.parts f.path.steps := by
  obtain ⟨us, hus, rfl⟩ := h
  obtain ⟨l, hdenote, rfl, hagrees⟩ := Hop.exists_segments hus a.characters
  refine ⟨⟨a.root, l, a.isName, hdenote⟩, ?_, .cons (.field a.root) hagrees⟩
  rw [Path.Form.text, List.flatMap_def]

lemma exists_spelled {a : Address}
    (h : ∀ i, .place i ∈ a.hops → (Decimal.ofNat i).length ≤ 4300) : ∃ t, a.Spelled t := by
  have hparts : ∀ hop ∈ a.hops, ∃ u, hop.Spelled u := by
    intro hop hmem
    apply Hop.exists_spelled
    rintro i rfl
    exact h i hmem
  choose! spell hspell using hparts
  exact ⟨_, a.hops.map spell, List.forall₂_map_right_iff.mpr (List.forall₂_same.mpr hspell), rfl⟩

/-- Whatever text spells an address, it is read as a path that leads to the node at the address, if
the tree has one, and nowhere otherwise. So what a path leads to depends on the address alone. Every
address can be spelled that has no place of more than 4300 digits; only between quotation marks a
key is reached that is made of digits. -/
theorem walk_of_spelled {tree : Value} (htree : tree.KeysDiffer) (a : Address) :
    (∀ t, a.Spelled t → ∃ p, Path.parse t = .ok p ∧
      (∀ node, p.walk tree = some node ↔ node.LiesAt a.parts tree) ∧
      (p.walk tree = none ↔ ¬ ∃ node : Value, node.LiesAt a.parts tree)) ∧
    (∀ t t', a.Spelled t → a.Spelled t' →
      (Path.parse t).map (·.walk tree) = (Path.parse t').map (·.walk tree)) ∧
    ((∀ i, .place i ∈ a.hops → (Decimal.ofNat i).length ≤ 4300) → ∃ t, a.Spelled t) ∧
    ∀ f : Path.Form, ∀ s ∈ (f.root, Step.field f.root) :: f.segments, ∀ (k : Text) (v : Value),
      (∀ c ∈ k, c.isDigit) → s.2.child? (.map [(k, v)]) = some v →
        ∃ t, Path.Spells t k ∧ s.1 = "[\"" ++ (t ++ "\"]") := by
  have hwalk : ∀ t, a.Spelled t → ∃ p, Path.parse t = .ok p ∧
      ∀ node, p.walk tree = some node ↔ node.LiesAt a.parts tree := by
    intro t ht
    obtain ⟨f, rfl, hagrees⟩ := ht.exists_form
    exact ⟨f.path, f.parse_text, fun node => Value.at?_eq_some_iff hagrees htree⟩
  refine ⟨?_, ?_, exists_spelled, ?_⟩
  · intro t ht
    obtain ⟨p, hp, hnode⟩ := hwalk t ht
    refine ⟨p, hp, hnode, ?_⟩
    simp only [← hnode, Option.eq_none_iff_forall_ne_some, ne_eq, not_exists]
  · intro t t' ht ht'
    obtain ⟨p, hp, hnode⟩ := hwalk t ht
    obtain ⟨p', hp', hnode'⟩ := hwalk t' ht'
    have hsame : p.walk tree = p'.walk tree := by
      apply Option.ext
      intro node
      rw [hnode, hnode']
    simp [hp, hp', Except.map, hsame]
  · intro f s hs k v hk hchild
    rcases List.mem_cons.mp hs with rfl | hs
    · obtain rfl := Path.eq_of_lookup_singleton hchild
      exact absurd hk f.isName.not_digits
    · exact (f.denote s hs).exists_spells hk hchild

/-- A tree with a key made of digits above a list. -/
def zeroTree : Value := .map [("spec", .map [("0", .list [.null, .str "x"]), ("1", .null)])]

/-- The way to the second item of the list. -/
def secondItem : Address where
  root := "spec"
  hops := [.key "0", .place 1]
  isName := (Path.isName_of_name? (t := "spec") (r := []) (by decide +kernel)).1
  characters := by
    intro k hk
    obtain rfl : k = Text.ofString "0" := by simpa using hk
    exact List.forall_mem_singleton.mpr (by decide)

lemma zeroTree_keysDiffer : zeroTree.KeysDiffer := by
  have hkeys : ("0" : Text) ≠ "1" := by decide
  simp [zeroTree, hkeys]

lemma secondItem_spelled : secondItem.Spelled "spec[\"\\u0030\"].01" := by
  have hzero : Path.Quotes "0" "\\u0030" :=
    ⟨["\\u0030"], .cons (.number (.short ⟨rfl, List.all_eq_true.mp (by decide), rfl⟩)) .nil, rfl⟩
  have hone : Path.Numeral "01" 1 := ⟨by decide, by decide, List.all_eq_true.mp (by decide), rfl⟩
  exact ⟨["[\"\\u0030\"]", ".01"], .cons (.quoted hzero) (.cons (.dotted hone) .nil), rfl⟩

theorem secondItem_is_found :
    zeroTree.KeysDiffer ∧ secondItem.Spelled "spec[\"\\u0030\"].01" ∧
      ∃ p, Path.parse "spec[\"\\u0030\"].01" = .ok p ∧ p.walk zeroTree = some (.str "x") := by
  refine ⟨zeroTree_keysDiffer, secondItem_spelled, ?_⟩
  obtain ⟨p, hp, hnode, -⟩ :=
    (walk_of_spelled zeroTree_keysDiffer secondItem).1 _ secondItem_spelled
  refine ⟨p, hp, (hnode _).mpr ?_⟩
  have hitem : (Value.str "x").LiesAt [.place 1] (.list [.null, .str "x"]) := .item rfl .here
  have hlist : (Value.str "x").LiesAt [.key "0", .place 1]
      (.map [("0", .list [.null, .str "x"]), ("1", .null)]) := .entry List.mem_cons_self hitem
  exact .entry List.mem_cons_self hlist

end Address

end Settle
