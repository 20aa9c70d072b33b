import TopicGuard.Bcrypt.Stored

/-!
# Password verifiers

A verifier says whether a password goes with a stored text.
-/

namespace TopicGuard.Password

/-- A way to check passwords. -/
structure Verifier where
  /-- What the way is called. -/
  name : String
  /-- Whether a password goes with a stored text. -/
  accepts : (password stored : String) → Bool

namespace Verifier

/-- Stored texts are the passwords themselves. -/
def plain : Verifier :=
  ⟨"plain", fun password stored => password == stored⟩

/-- Stored texts are password hashes. -/
def bcrypt : Verifier :=
  ⟨"bcrypt", Bcrypt.verify⟩

end Verifier

end TopicGuard.Password
