/-! The order of texts by their characters, and of lists of texts. -/

namespace Jenkinsfile.Text

/-- Whether `xs` comes before `ys`: its item is the smaller one at the first place where the two
differ, or it ends there. -/
def precedes {α : Type} [DecidableEq α] (lt : α → α → Bool) : List α → List α → Bool
  | _, [] => false
  | [], _ :: _ => true
  | x :: xs, y :: ys => if x = y then precedes lt xs ys else lt x y

/-- Whether the text `s` comes before `t`. -/
def comesBefore (s t : String) : Bool :=
  precedes (fun c d => c.toNat < d.toNat) s.toList t.toList

end Jenkinsfile.Text
