import RoleGrants.Yaml.Writer

/-!
# Strokes of the pen

What the moves of the pen add to what is written. `Pen.Adds p w q` says that `q` has written `w`
after `p`. From any place behind text the pen goes to an indentation by breaking the line.
-/

namespace RoleGrants.Yaml

namespace Pen

variable {p q r : Pen} {v w : List Char} {indent : Nat}

/-- Between two pens a text was written. -/
def Adds (p : Pen) (w : List Char) (q : Pen) : Prop := q.written = w.reverse ++ p.written

theorem Adds.refl (p : Pen) : p.Adds [] p := rfl

theorem Adds.trans (h : p.Adds v q) (h' : q.Adds w r) : p.Adds (v ++ w) r := by
  rw [Adds] at h h' ⊢
  rw [h', h, List.reverse_append, List.append_assoc]

theorem put_put (u v : List Char) (p : Pen) : (p.put u).put v = p.put (u ++ v) := by
  simp [put, Nat.add_assoc]

theorem adds_put (s : List Char) (p : Pen) : p.Adds s (p.put s) := rfl

theorem adds_breakLine (b : Char) (p : Pen) : p.Adds [b] (p.breakLine b) := rfl

/-- The pen at an indentation of a new line. -/
def onLine (indent : Nat) (p : Pen) : Pen :=
  ⟨List.replicate indent ' ' ++ '\n' :: p.written, indent, true, true, p.openEnded⟩

theorem adds_onLine (indent : Nat) (p : Pen) :
    p.Adds ('\n' :: List.replicate indent ' ') (p.onLine indent) := by
  simp [Adds, onLine]

theorem toIndent_breakLine (b : Char) (indent : Nat) (p : Pen) :
    (p.breakLine b).toIndent indent =
      ⟨List.replicate indent ' ' ++ b :: p.written, indent, true, true, p.openEnded⟩ := by
  cases indent <;> simp [toIndent, breakLine, put]

/-- From text, and from beyond an indentation, the pen goes there on a new line. -/
theorem toIndent_eq_onLine (h : p.indenting = false ∨ indent < p.column) :
    p.toIndent indent = p.onLine indent := by
  rw [onLine, ← toIndent_breakLine]
  have hnew : (!p.indenting || indent < p.column || (p.column = indent && !p.blank)) = true := by
    rcases h with h | h <;> simp [h]
  have hold : (p.breakLine '\n').toIndent indent =
      if (p.breakLine '\n').column < indent then
        { (p.breakLine '\n').put (List.replicate (indent - (p.breakLine '\n').column) ' ')
          with blank := true }
      else p.breakLine '\n' := by
    cases indent <;> simp [toIndent, breakLine]
  rw [hold, toIndent, if_pos hnew]

/-- At an indentation the pen stays where it is. -/
theorem toIndent_eq_self (hi : p.indenting = true) (hb : p.blank = true) :
    p.toIndent p.column = p := by
  simp [toIndent, hi, hb]

end Pen

end RoleGrants.Yaml
