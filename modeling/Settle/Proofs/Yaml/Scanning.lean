import Settle.Proofs.Raises
import Settle.Yaml.Layout

/-!
# Faults of the tokens of a document

Text is no document because it is malformed, or because an escape in it stands for no code point.
The number of such an escape is a value that is not acceptable, or beyond all limits.
-/

namespace Settle.Yaml

/-- The faults of a text that is split into tokens. -/
def OfSyntax : Failure → Prop
  | .malformed _ | .invalid _ | .overflow => True
  | _ => False

@[simp] lemma fault_raises {α : Type} (context : Text) :
    Raises OfSyntax (fault context : Except Failure α) :=
  Raises.error_iff.mpr trivial

/-! ### Anchors, tags and directives -/

namespace Property

@[simp] lemma anchor_raises (what : Text) (c : Cursor) : Raises OfSyntax (anchor what c) := by
  simp [anchor]

@[simp] lemma handle_raises (what : Text) (c : Cursor) : Raises OfSyntax (handle what c) := by
  simp [handle]

@[simp] lemma bytes_raises (what : Text) (fuel : Nat) (seen : List UInt8) (c : Cursor) :
    Raises OfSyntax (bytes what fuel seen c) := by
  induction fuel generalizing seen c with
  | zero => simp [bytes]
  | succ fuel ih =>
    rw [bytes]
    cases byte? c.next <;> simp [ih]

@[simp] lemma escaped_raises (what : Text) (c : Cursor) : Raises OfSyntax (escaped what c) := by
  rw [escaped]
  refine Raises.bind_iff.mpr ⟨bytes_raises _ _ _ _, fun ⟨bs, c'⟩ _ => ?_⟩
  dsimp only
  split <;> simp

@[simp] lemma identifierParts_raises (what : Text) (fuel : Nat) (seen : Text) (c : Cursor) :
    Raises OfSyntax (identifierParts what fuel seen c) := by
  induction fuel generalizing seen c with
  | zero => simp [identifierParts]
  | succ fuel ih => simp [identifierParts, ih]

@[simp] lemma identifier_raises (what : Text) (c : Cursor) :
    Raises OfSyntax (identifier what c) := by
  simp [identifier]

@[simp] lemma tag_raises (c : Cursor) : Raises OfSyntax (tag c) := by
  simp [tag]

@[simp] lemma number_raises (c : Cursor) : Raises OfSyntax (number c) := by
  simp [number]

@[simp] lemma directiveValue_raises (name : Text) (c : Cursor) :
    Raises OfSyntax (directiveValue name c) := by
  simp [directiveValue]

@[simp] lemma directive_raises (c : Cursor) : Raises OfSyntax (directive c) := by
  simp [directive]

end Property

/-! ### Scalars -/

namespace Quoted

@[simp] lemma numbered_raises (n : Nat) : Raises OfSyntax (numbered n) := by
  unfold numbered
  split
  · simp
  · split
    · exact Raises.error_iff.mpr trivial
    · exact Raises.error_iff.mpr trivial

@[simp] lemma breaks_raises (fuel : Nat) (seen : Text) (c : Cursor) :
    Raises OfSyntax (breaks fuel seen c) := by
  induction fuel generalizing seen c with
  | zero => simp [breaks]
  | succ fuel ih => simp [breaks, ih]

@[simp] lemma escape_raises (c : Cursor) : Raises OfSyntax (escape c) := by
  unfold escape
  split
  · simp
  · split <;> simp

@[simp] lemma word_raises (double : Bool) (fuel : Nat) (seen : Text) (c : Cursor) :
    Raises OfSyntax (word double fuel seen c) := by
  induction fuel generalizing seen c with
  | zero => simp [word]
  | succ fuel ih =>
    rw [word]
    split
    split <;> simp [ih]

@[simp] lemma gap_raises (c : Cursor) : Raises OfSyntax (gap c) := by
  simp [gap]

@[simp] lemma body_raises (double : Bool) (fuel : Nat) (seen : Text) (c : Cursor) :
    Raises OfSyntax (body double fuel seen c) := by
  induction fuel generalizing seen c with
  | zero => simp [body]
  | succ fuel ih => simp [body, ih]

@[simp] lemma read_raises (c : Cursor) : Raises OfSyntax (read c) := body_raises _ _ _ _

end Quoted

namespace Block

@[simp] lemma depth?_raises (c : Cursor) : Raises OfSyntax (depth? c) := by
  unfold depth?
  split <;> simp

@[simp] lemma header_raises (c : Cursor) : Raises OfSyntax (header c) := by
  unfold header
  cases chomp? c with
  | none =>
    refine Raises.bind_iff.mpr ⟨depth?_raises c, fun n? _ => ?_⟩
    cases n? with
    | none => simp
    | some n =>
      dsimp only
      split <;> simp
  | some h =>
    refine Raises.bind_iff.mpr ⟨depth?_raises c.next, fun n? _ => ?_⟩
    cases n? <;> simp

@[simp] lemma restOfLine_raises (c : Cursor) : Raises OfSyntax (restOfLine c) := by
  simp [restOfLine]

@[simp] lemma read_raises (outer : Int) (c : Cursor) : Raises OfSyntax (read outer c) := by
  simp [read]

end Block

/-! ### Layout -/

namespace Layout

variable (l : Layout)

@[simp] lemma dropStale_raises : Raises OfSyntax l.dropStale := by
  simp [dropStale]

@[simp] lemma dropKey_raises : Raises OfSyntax l.dropKey := by
  unfold dropKey
  split <;> simp

@[simp] lemma offerKey_raises : Raises OfSyntax l.offerKey := by
  simp [offerKey]

@[simp] lemma leave_raises : Raises OfSyntax l.leave := by
  simp [leave]

@[simp] lemma streamEnd_raises : Raises OfSyntax l.streamEnd := by
  simp [streamEnd]

@[simp] lemma value_raises : Raises OfSyntax l.value := by
  unfold value
  split <;> simp

@[simp] lemma anchor_raises (what : Text) (make : Text → Token) :
    Raises OfSyntax (l.anchor what make) := by
  simp [anchor]

@[simp] lemma readAt_raises (d : CodePoint) : Raises OfSyntax (l.readAt d) := by
  simp [readAt, directive, documentMark, flowStart, flowEnd, flowEntry, blockEntry, key, tag,
    blockScalar, quotedScalar, plainScalar]

@[simp] lemma read_raises : Raises OfSyntax l.read := by
  refine Raises.bind_iff.mpr ⟨dropStale_raises _, fun l' _ => ?_⟩
  dsimp only
  split <;> simp

@[simp] lemma needsMore_raises : Raises OfSyntax l.needsMore := by
  simp [needsMore]

@[simp] lemma fill_raises (fuel : Nat) : Raises OfSyntax (fill fuel l) := by
  induction fuel generalizing l with
  | zero => simp [fill]
  | succ fuel ih => simp [fill, ih]

lemma ofSyntax_of_tokens {fuel : Nat} {f : Failure} (h : (tokens fuel l).2 = some f) :
    OfSyntax f := by
  induction fuel generalizing l with
  | zero => cases h
  | succ fuel ih =>
    rw [tokens] at h
    split at h
    · next f' hf =>
      cases h
      exact fill_raises _ _ _ hf
    · split at h
      · cases h
      · exact ih _ h

end Layout

/-- The failure that ends the tokens of a document is a fault of its text. -/
lemma Token.ofSyntax_of_read {t : Text} {f : Failure} (h : (Token.read t).2 = some f) :
    OfSyntax f :=
  Layout.ofSyntax_of_tokens _ h

end Settle.Yaml
