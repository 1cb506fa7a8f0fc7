/-!
# Hosts

What the store asks of the machine it runs on: files and a clock.  A call that fails answers its
cause in the machine's words.
-/

namespace Tabula

class Host (m : Type -> Type) where
  /-- Milliseconds since 1970. -/
  now : m Nat
  exists? : String -> m Bool
  read : String -> m (Except String String)
  /-- Create a directory and the directories it is in; one that is there is left alone. -/
  createDirectory : String -> m (Except String Unit)
  write : String -> String -> m (Except String Unit)
  /-- Give a file a new name; a file of that name is replaced as a whole. -/
  rename : String -> String -> m (Except String Unit)
  remove : String -> m (Except String Unit)

instance {m n : Type -> Type} [MonadLift m n] [Host m] : Host n where
  now := liftM (Host.now (m := m))
  exists? path := liftM (Host.exists? (m := m) path)
  read path := liftM (Host.read (m := m) path)
  createDirectory path := liftM (Host.createDirectory (m := m) path)
  write path text := liftM (Host.write (m := m) path text)
  rename source target := liftM (Host.rename (m := m) source target)
  remove path := liftM (Host.remove (m := m) path)

end Tabula
