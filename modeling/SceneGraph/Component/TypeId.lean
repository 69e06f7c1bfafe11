/-!
Identifiers of component types. A type is identified by the 64-bit FNV-1a hash of the bytes of its
name, so a name has the same identifier everywhere.
-/
namespace SceneGraph

structure TypeId where
  hash : UInt64
deriving DecidableEq, Repr

namespace TypeId

def offsetBasis : UInt64 := 0xcbf29ce484222325

def prime : UInt64 := 0x100000001b3

def mix (hash : UInt64) (byte : UInt8) : UInt64 := (hash ^^^ byte.toUInt64) * prime

def ofBytes (bytes : List UInt8) : TypeId := ⟨bytes.foldl mix offsetBasis⟩

def ofName (name : String) : TypeId := ofBytes name.toByteArray.data.toList

theorem ofBytes_append (first second : List UInt8) :
    ofBytes (first ++ second) = ⟨second.foldl mix (ofBytes first).hash⟩ := by
  simp [ofBytes]

end TypeId
end SceneGraph
