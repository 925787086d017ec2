namespace Autocomplete.Product

def name : String := "editcomp"

def version : String := "0.1.0"

end Autocomplete.Product
