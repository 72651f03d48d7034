import MeckChat.Foundation.Attributes

/-!
Looking up attributes by their types, as a receiver of netlink messages does.

* `kind` is a type without its flags.
* `data?` is the data of the last attribute of a kind, `children?` are the attributes
  nested in the last one, and `elements` are the lists nested in a list, in order.
* A lookup in two lists asks the second one first (`data?_append`, `children?_append`);
  `elements_append` keeps the order.
-/

namespace Attributes

/-- A type without the flags. -/
def kind (type : UInt16) : UInt16 := type &&& 0x3FFF

/-- The data of the last attribute of a kind. -/
def data? (k : UInt16) : Attributes → Option Bytes
  | nil => none
  | leaf type data rest => (rest.data? k).or (if kind type = k then some data else none)
  | nest _ _ rest => rest.data? k

/-- The attributes nested in the last attribute of a kind. -/
def children? (k : UInt16) : Attributes → Option Attributes
  | nil => none
  | leaf _ _ rest => rest.children? k
  | nest type children rest =>
      (rest.children? k).or (if kind type = k then some children else none)

/-- The nested lists, in order. -/
def elements : Attributes → List Attributes
  | nil => []
  | leaf _ _ rest => rest.elements
  | nest _ children rest => children :: rest.elements

@[simp] lemma data?_nil (k : UInt16) : nil.data? k = none := rfl

@[simp] lemma children?_nil (k : UInt16) : nil.children? k = none := rfl

@[simp] lemma elements_nil : nil.elements = [] := rfl

lemma data?_append (k : UInt16) (ts us : Attributes) :
    (ts.append us).data? k = (us.data? k).or (ts.data? k) := by
  induction ts with
  | nil => rw [append, data?_nil, Option.or_none]
  | leaf type data rest ih => rw [append, data?, ih, data?, Option.or_assoc]
  | nest type children rest _ ih => rw [append, data?, ih, data?]

lemma children?_append (k : UInt16) (ts us : Attributes) :
    (ts.append us).children? k = (us.children? k).or (ts.children? k) := by
  induction ts with
  | nil => rw [append, children?_nil, Option.or_none]
  | leaf type data rest ih => rw [append, children?, ih, children?]
  | nest type children rest _ ih => rw [append, children?, ih, children?, Option.or_assoc]

lemma elements_append (ts us : Attributes) :
    (ts.append us).elements = ts.elements ++ us.elements := by
  induction ts with
  | nil => rfl
  | leaf type data rest ih => rw [append, elements, ih, elements]
  | nest type children rest _ ih => rw [append, elements, ih, elements, List.cons_append]

end Attributes

/-! ### Texts -/

/-- The text in front of the null that ends it. -/
def cString (data : Bytes) : Bytes := data.takeWhile (· ≠ 0)
