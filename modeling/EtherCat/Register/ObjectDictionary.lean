import EtherCat.Foundation.BitField

/-!
# Entries of the object dictionary
-/

namespace EtherCat

open BitField

namespace OdPdoEntry

def size : ℕ := 4
def bitLength : Field := ⟨7, 0, .lsb0⟩
def subIndex : Field := ⟨15, 8, .lsb0⟩
def index : Field := ⟨31, 16, .lsb0⟩

end OdPdoEntry

end EtherCat
