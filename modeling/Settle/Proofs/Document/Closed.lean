import Mathlib.Tactic.Lemma
import Settle.Document.Basic

/-!
# Closed documents

A document is closed if each collection that stands again in it is one that it stands in. What a
closed collection holds is closed as well, so a closed document can be looked into at any depth.
-/

namespace Settle.Document

mutual

/-- Each collection that stands again is in the document, or is one of `n` around it. Keys hold no
collections. -/
def ClosedIn (n : Nat) : Document → Prop
  | .again k => k < n
  | .list ds | .tuple ds | .set ds => AllClosedIn (n + 1) ds
  | .map es => EntriesClosedIn (n + 1) es
  | _ => True

def AllClosedIn (n : Nat) : List Document → Prop
  | []      => True
  | d :: ds => ClosedIn n d ∧ AllClosedIn n ds

def EntriesClosedIn (n : Nat) : List (Document × Document) → Prop
  | []           => True
  | (k, v) :: es => (k.isKey = true ∧ ClosedIn n v) ∧ EntriesClosedIn n es

end

/-- Each collection that stands again is in the document. -/
def Closed (d : Document) : Prop := d.ClosedIn 0

lemma allClosedIn_iff {n : Nat} {ds : List Document} :
    AllClosedIn n ds ↔ ∀ d ∈ ds, d.ClosedIn n := by
  induction ds with
  | nil => simp [AllClosedIn]
  | cons d ds ih => simp [AllClosedIn, ih]

lemma entriesClosedIn_iff {n : Nat} {es : List (Document × Document)} :
    EntriesClosedIn n es ↔ ∀ e ∈ es, e.1.isKey = true ∧ e.2.ClosedIn n := by
  induction es with
  | nil => simp [EntriesClosedIn]
  | cons e es ih => simp [EntriesClosedIn, ih]

mutual

lemma ClosedIn.mono {m n : Nat} (hmn : m ≤ n) : ∀ {d : Document}, d.ClosedIn m → d.ClosedIn n
  | .again _, h => Nat.lt_of_lt_of_le h hmn
  | .list _, h | .tuple _, h | .set _, h => AllClosedIn.mono (Nat.succ_le_succ hmn) h
  | .map _, h => EntriesClosedIn.mono (Nat.succ_le_succ hmn) h
  | .null, _ | .bool _, _ | .int _, _ | .float _, _ | .str _, _ | .bytes _, _ | .moment _, _ =>
    trivial

lemma AllClosedIn.mono {m n : Nat} (hmn : m ≤ n) :
    ∀ {ds : List Document}, AllClosedIn m ds → AllClosedIn n ds
  | [], _ => trivial
  | _ :: _, ⟨hd, hds⟩ => ⟨hd.mono hmn, hds.mono hmn⟩

lemma EntriesClosedIn.mono {m n : Nat} (hmn : m ≤ n) :
    ∀ {es : List (Document × Document)}, EntriesClosedIn m es → EntriesClosedIn n es
  | [], _ => trivial
  | (_, _) :: _, ⟨⟨hk, hv⟩, hes⟩ => ⟨⟨hk, hv.mono hmn⟩, hes.mono hmn⟩

end

mutual

/-- What can be a key holds no collection but tuples of such. -/
lemma closedIn_of_isKey (n : Nat) : ∀ {d : Document}, d.isKey = true → d.ClosedIn n
  | .tuple _, h => allClosedIn_of_areKeys (n + 1) h
  | .null, _ | .bool _, _ | .int _, _ | .float _, _ | .str _, _ | .bytes _, _ | .moment _, _ =>
    trivial

lemma allClosedIn_of_areKeys (n : Nat) :
    ∀ {ds : List Document}, areKeys ds = true → AllClosedIn n ds
  | [], _ => trivial
  | _ :: _, h => by
    obtain ⟨hd, hds⟩ := Bool.and_eq_true_iff.mp h
    exact ⟨closedIn_of_isKey n hd, allClosedIn_of_areKeys n hds⟩

end

/-! ### What a collection holds -/

mutual

/-- With the whole in its place, one collection less is around. -/
lemma closedIn_fill {whole : Document} (hwhole : whole.Closed) {n : Nat} :
    ∀ {d : Document}, d.ClosedIn (n + 1) → (fill whole n d).ClosedIn n
  | .again k, h => by
    unfold fill
    split
    · exact hwhole.mono (Nat.zero_le n)
    · next hne => exact Nat.lt_of_le_of_ne (Nat.le_of_lt_succ h) hne
  | .list _, h | .tuple _, h | .set _, h => allClosedIn_fill hwhole h
  | .map _, h => entriesClosedIn_fill hwhole h
  | .null, _ | .bool _, _ | .int _, _ | .float _, _ | .str _, _ | .bytes _, _ | .moment _, _ =>
    trivial

lemma allClosedIn_fill {whole : Document} (hwhole : whole.Closed) {n : Nat} :
    ∀ {ds : List Document}, AllClosedIn (n + 1) ds → AllClosedIn n (fillAll whole n ds)
  | [], _ => trivial
  | _ :: _, ⟨hd, hds⟩ => ⟨closedIn_fill hwhole hd, allClosedIn_fill hwhole hds⟩

lemma entriesClosedIn_fill {whole : Document} (hwhole : whole.Closed) {n : Nat} :
    ∀ {es : List (Document × Document)},
      EntriesClosedIn (n + 1) es → EntriesClosedIn n (fillEntries whole n es)
  | [], _ => trivial
  | (_, _) :: _, ⟨⟨hk, hv⟩, hes⟩ =>
    ⟨⟨hk, closedIn_fill hwhole hv⟩, entriesClosedIn_fill hwhole hes⟩

end

namespace Closed

variable {d : Document}

/-- The items of a closed collection are closed. -/
theorem of_mem_items (h : d.Closed) {ds : List Document} (hds : d.items? = some ds) :
    ∀ i ∈ ds, i.Closed := by
  cases d with
  | list items | tuple items | set items =>
    cases hds
    exact allClosedIn_iff.mp (allClosedIn_fill h h)
  | _ => cases hds

/-- The values of a closed map are closed. -/
theorem of_mem_entries (h : d.Closed) {es : List (Document × Document)}
    (hes : d.entries? = some es) : ∀ e ∈ es, e.1.isKey = true ∧ e.2.Closed := by
  cases d with
  | map entries =>
    cases hes
    exact entriesClosedIn_iff.mp (entriesClosedIn_fill h h)
  | _ => cases hes

end Closed

end Settle.Document
