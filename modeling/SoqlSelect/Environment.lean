/-!
# Environment variables

A variable holds bytes. It can be read if they are UTF-8. No variable can hold a NUL character.
-/

namespace SoqlSelect

structure Environment where
  bindings : List (String × ByteArray) := []

namespace Environment

/-- The text of a variable, if it is set and can be read. -/
def get? (env : Environment) (name : String) : Option String :=
  (env.bindings.find? fun (n, _) => n == name).bind fun (_, bytes) => String.fromUTF8? bytes

/-- Sets the variable to a text, whatever it was. -/
def set (env : Environment) (name text : String) : Environment :=
  { bindings := (name, text.toUTF8) :: env.bindings }

@[simp] theorem get?_set_self (env : Environment) (name text : String) :
    (env.set name text).get? name = some text := by
  have h : text.toByteArray.IsValidUTF8 := text.isValidUTF8
  simp only [get?, set, List.find?_cons_of_pos, beq_self_eq_true, Option.bind_some,
    String.fromUTF8?, String.toUTF8, h, dif_pos]
  rfl

/-- Sets the variable to a text unless it can be read already. -/
def provide (env : Environment) (name text : String) : Environment :=
  if (env.get? name).isSome then env else env.set name text

/-- The variable can be provided with the text: it can be read already, or it can hold the text. -/
def accepts (env : Environment) (name text : String) : Bool :=
  (env.get? name).isSome || !text.toList.contains '\x00'

/-- Provides one variable after the other. -/
def provideAll (env : Environment) (assignments : List (String × String)) : Environment :=
  assignments.foldl (fun env (name, text) => env.provide name text) env

end Environment

end SoqlSelect
