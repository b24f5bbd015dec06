/-!
Texts put together with a separator.
-/

namespace Workbench.Text

/-- Texts with a separator between every two of them. -/
def joinWith (separator : String) : List String → String
  | [] => ""
  | [s] => s
  | s :: rest => s ++ separator ++ joinWith separator rest

@[simp]
theorem joinWith_nil (separator : String) : joinWith separator [] = "" := rfl

@[simp]
theorem joinWith_singleton (separator s : String) : joinWith separator [s] = s := rfl

@[simp]
theorem joinWith_cons_cons (separator s t : String) (rest : List String) :
    joinWith separator (s :: t :: rest) = s ++ separator ++ joinWith separator (t :: rest) := rfl

end Workbench.Text
