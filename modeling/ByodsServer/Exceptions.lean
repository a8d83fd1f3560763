/-
# Exceptions

The exceptions that the server's own code raises or names in an `except`
clause, together with the ones its calls can raise. `other` stands for every
further class derived from `Exception`. A handler's `except` clause is a match
on the constructors it names.
-/

import Mathlib.Tactic.Common

namespace ByodsServer

/-- An exception derived from `Exception`, with its message. -/
inductive PyException
  | catalogLoadError (message : String)
  | catalogRepositoryError (message : String)
  | encryptionError (message : String)
  | invalidToken
  | duplicateDataSourceURLError (message : String)
  | orgNotRegisteredError (message : String)
  | notFoundError (message : String)
  | authenticationError (message : String)
  | validationError (message : String)
  | httpException (statusCode : ℕ) (detail : String)
  | jsonDecodeError (message : String)
  | unicodeDecodeError (message : String)
  | unicodeEncodeError (message : String)
  | valueError (message : String)
  | keyError (key : String)
  | typeError (message : String)
  | attributeError (message : String)
  | runtimeError (message : String)
  | clientError (message : String)
  | botoCoreError (message : String)
  | osError (message : String)
  | other (className message : String)
  deriving DecidableEq, Repr

namespace PyException

/-- `str(exc)`. -/
def message : PyException → String
  | catalogLoadError message => message
  | catalogRepositoryError message => message
  | encryptionError message => message
  | invalidToken => ""
  | duplicateDataSourceURLError message => message
  | orgNotRegisteredError message => message
  | notFoundError message => message
  | authenticationError message => message
  | validationError message => message
  | httpException statusCode detail => toString statusCode ++ ": " ++ detail
  | jsonDecodeError message => message
  | unicodeDecodeError message => message
  | unicodeEncodeError message => message
  | valueError message => message
  | keyError key => "'" ++ key ++ "'"
  | typeError message => message
  | attributeError message => message
  | runtimeError message => message
  | clientError message => message
  | botoCoreError message => message
  | osError message => message
  | other _ message => message

/-- `isinstance(exc, ValueError)`. -/
def isValueError : PyException → Bool
  | valueError _ | jsonDecodeError _ | unicodeDecodeError _ | unicodeEncodeError _ => true
  | _ => false

/-- `isinstance(exc, AuthenticationError)`. -/
def isAuthenticationError : PyException → Bool
  | authenticationError _ => true
  | _ => false

end PyException

end ByodsServer
