import RoleGrants.Directory.Basic

/-!
# Scripted directories

A directory that replies from a list, one reply after the other, the last one again and again,
whatever it is asked. It remembers what it was asked.
-/

namespace RoleGrants

/-- The next of some replies, and those that are left; the last one is never used up. -/
def takeTurn {α : Type} : List α → Option α × List α
  | [] => (none, [])
  | [a] => (some a, [a])
  | a :: rest => (some a, rest)

/-- The replies that are left, and the queries so far, the last one first. -/
structure ScriptedDirectory where
  replies : List Reply
  asked : List String
  deriving Repr

/-- Replies from the script. -/
def ScriptedDirectory.directory : Directory ScriptedDirectory := fun s d =>
  let (reply, replies) := takeTurn d.replies
  (reply.getD (.names (.array [])), [], ⟨replies, s.query :: d.asked⟩)

end RoleGrants
