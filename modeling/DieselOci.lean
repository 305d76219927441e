import DieselOci.Native
import DieselOci.CheckError
import DieselOci.Url
import DieselOci.Connection
import DieselOci.Statement
import DieselOci.Cursor
import DieselOci.Columns
import DieselOci.Bind
import DieselOci.Lengths
import DieselOci.FailStop
import DieselOci.Handles
import DieselOci.Prepare
import DieselOci.Live
import DieselOci.Client
