/-!
# Words

Numbers of a fixed count of bits.
-/

namespace ChatGateway.Word

/-- How many natural numbers have no more than so many bits. -/
def size (bits : Nat) : Nat := Nat.pow 2 bits

/-- Whether a natural number has no more than so many bits. -/
def fits (bits value : Nat) : Bool := decide (value < size bits)

/-- What so many bits hold of a number: its remainder. -/
def wrap (bits value : Nat) : Nat := value % size bits

end ChatGateway.Word
