/-!
# Names of characters — scripts of recent times

The characters from U+16800 to U+1CFFF (Bamum, Miao, Khitan, Kana of old and others), in the form that
`Text.Names` describes.
-/

namespace SplitExport.Text.Names

/-- The names of scripts of recent times. -/
def recent : String :=
  "16800:0BAMUM LETTER PHASE-A NGKUE MFON,4GBIEE FON,4PON MFON PIPAEMGBIEE,6PIPAEMBA,4NAA MFON
4SHUENSHUET,4TITA MFON,4NZA MFON,4SHINDA PA NJI,4PON PA NJI PIPAEMGBIEE,7PIPAEMBA,4MAEMBGBIEE
4TU MAEMBA,4NGANGU,4MAEMVEUX,4MANSUAE,4MVEUAENGAM,4SEUNYAM,4NTOQPEN,4KEUKEUTNDA,4NKINDI,4SUU
4NGKUENZEUM,4LAPAQ,4LET KUT,4NTAP MFAA,4MAEKEUP,4PASHAE,4GHEUAERAE,4PAMSHAE,4MON NGGEUAET
4NZUN MEUT,4U YUQ NAE,4GHEUAEGHEUAE,4NTAP NTAA,4SISA,4MGBASA,4MEUNJOMNDEUQ,4MOOMPUQ,4KAFA
4PA LEERAEWA,4NDA LEERAEWA,4PET,4MAEMKPEN,4NIKA,4PUP,4TUAEP,4LUAEP,4SONJAM,4TEUTEUWEN,4MAENYI,4KET
4NDAANGGEUAET,4KUOQ,4MOOMEUT,4SHUM,4LOMMAE,4FIRI,4ROM,4KPOQ,4SOQ,4MAP PIEET,4SHIRAE,4NTAP
4SHOQ NSHUT YUM,4NYIT MONGKEUAEQ,4PAARAE,4NKAARAE,4UNKNOWN,4NGGEN,4MAESI,4NJAM,4MBANYI,4NYET
4TEUAEN,4SOT,4PAAM,4NSHIEE,4MAEM,4NYI,4KAQ,4NSHA,4VEE,4LU,4NEN,4NAQ,4MBAQ,3B NSHUET,4TU MAEMGBIEE
4SIEE,4SET TU,4LOM NTEUM,4MBA MAELEE,4KIEEM,4YEURAE,4MBAARAE,4KAM,4PEESHI,4YAFU LEERAEWA
4LAM NSHUT NYAM,4NTIEE SHEUOQ,4NDU NJAA,4GHEUGHEUAEM,4PIT,4TU NSIEE,4SHET NJAQ,4SHEUAEQTU
4MFON TEUAEQ,4MBIT MBAAKET,4NYI NTEUM,4KEUPUQ,4GHEUGHEN,4KEUYEUX,4LAANAE,4PARUM,4VEUM,4NGKINDI MVOP
4NGGEU MBU,4WUAET,4SAKEUAE,4TAAM,4MEUQ,4NGGUOQ,4NGGUOQ LARGE,4MFIYAQ,4SUE,4MBEURI,4MONTIEEN
4NYAEMAE,4PUNGAAM,4MEUT NGGEET,4FEUX,4MBUOQ,4FEE,4KEUAEM,4MA NJEUAENA,5NJUQA,4LET,4NGGAAM,4NSEN,4MA
4KIQ,4NGOM,3C NGKUE MAEMBA,4NZA,4YUM,4WANGKUOQ,4NGGEN,4NDEUAEREE,4NGKAQ,4GHARAE,4MBEEKEET,4GBAYI
4NYIR MKPARAQ MEUN,4NTU MBIT,4MBEUM,4PIRIEEN,4NDOMBU,4MBAA CABBAGE-TREE,4KEUSHEUAEP,4GHAP,4KEUKAQ
4YU MUOMAE,4NZEUM,4MBUE,4NSEUAEN,4MBIT,4YEUQ,4KPARAQ,4KAA,4SEUX,4NDIDA,4TAASHAE,4NJUEQ,4TITA YUE
4SUAET,4NGGUAEN NYAM,4VEUX,4NANSANAQ,4MA KEUAERI,4NTAA,4NGGUON,4LAP,4MBIRIEEN,4MGBASAQ,4NTEUNGBA
4TEUTEUX,4NGGUM,4FUE,4NDEUT,4NSA,4NSHAQ,4BUNG,4VEUAEPEN,4MBERAE,4RU,4NJAEM,4LAM,4TITUAEP
4NSUOT NGOM,4NJEEEE,4KET,4NGGU,4MAESI,4MBUAEM,4LU,4KUT,4NJAM,4NGOM,4WUP,4NGGUEET,4NSOM,4NTEN
4KUOP NKAARAE,4NSUN,4NDAM,4MA NSIEE,4YAA,4NDAP,4SHUEQ,4SETFON,4MBI,4MAEMBA,4MBANYI,4KEUSEUX,4MBEUX
4KEUM,4MBAA PICKET,4YUWOQ,4NJEUX,4MIEE,4MUAE,4SHIQ,4KEN LAW,5FATIGUE,4NGAQ,4NAQ,4LIQ,4PIN,4PEN,4TET
3D MBUO,4WAP,4NJI,4MFON,4NJIEE,4LIEE,4NJEUT,4NSHEE,4NGGAAMAE,4NYAM,4WUAEN,4NGKUN,4SHEE,4NGKAP
4KEUAETMEUN,4TEUT,4SHEUAE,4NJAP,4SUE,4KET,4YAEMMAE,4KUOM,4SAP,4MFEUT,4NDEUX,4MALEERI,4MEUT,4SEUAEQ
4YEN,4NJEUAEM,4KEUOT MBUAE,4NGKEURI,4TU,4GHAA,4NGKYEE,4FEUFEUAET,4NDEE,4MGBOFUM,4LEUAEP,4NDON,4MONI
4MGBEUN,4PUUT,4MGBIEE,4MFO,4LUM,4NSIEEP,4MBAA,4KWAET,4NYET,4TEUAEN,4SOT,4YUWOQ,4KEUM,4RAEM,4TEEEE
4NGKEUAEQ,4MFEUAE,4NSIEET,4KEUP,4PIP,4PEUTAE,4NYUE,4LET,4NGGAAM,4MFIEE,4NGGWAEN,4YUOM,4PAP,4YUOP
4NDAM,4NTEUM,4SUAE,4KUN,4NGGEUX,4NGKIEE,4TUOT,4MEUN,4KUQ,4NSUM,4TEUN,4MAENJET,4NGGAP,4LEUM,4NGGUOM
4NSHUT,4NJUEQ,4GHEUAE,4KU,4REN OLD,4TAE,4TOQ,4NYI,4RII,4LEEEE,4MEEEE,4M,4SUU,4MU,4SHII,4SHEUX,4KYEE
4NU,4SHU,4NTEE,4PEE,4NI,4SHOQ,4PUQ,4MVOP,4LOQ,4REN MUCH,4TI,4NTUU,4MBAA SEVEN,4SAQ,4FAA,3E NDAP
4TOON,4MBEUM,4LAP,4VOM,4LOON,4PAA,4SOM,4RAQ,4NSHUOP,4NDUN,4PUAE,4TAM,4NGKA,4KPEUX,4WUO,4SEE
4NGGEUAET,4PAAM,4TOO,4KUOP,4LOM,4NSHIEE,4NGOP,4MAEM,4NGKEUX,4NGOQ,4NSHUE,4RIMGBA,4NJEUX,4PEEM,4SAA
4NGGURAE,4MGBA,4GHEUX,4NGKEUAEM,4NJAEMLI,4MAP,4LOOT,4NGGEEEE,4NDIQ,4TAEN NTEUM,4SET,4PUM
4NDAA SOFTNESS,4NGGUAESHAE NYAM,4YIEE,4GHEUN,4TUAE,4YEUAE,4PO,4TUMAE,4KEUAE,4SUAEN,4TEUAEQ,4VEUAE
4WEUX,4LAAM,4PU,4TAAQ,4GHAAMAE,4NGEUREUT,4SHEUAEQ,4MGBEN,4MBEE,4NZAQ,4NKOM,4GBET,4TUM,4KUET,4YAP
4NYI CLEAVER,4YIT,4MFEUQ,4NDIAQ,4PIEEQ,4YUEQ,4LEUAEM,4FUE,4GBEUX,4NGKUP,4KET,4MAE,4NGKAAMI,4GHET
4FA,4NTUM,4PEUT,4YEUM,4NGGEUAE,4NYI BETWEEN,4NZUQ,4POON,4MIEE,4FUET,4NAE,4MUAE,4GHEUAE,4FU I,4MVI
4PUAQ,4NGKUM,4KUT,4PIET,4NTAP,4YEUAET,4NGGUP,4PA PEOPLE,4FU CALL,4FOM,4NJEE,4A,4TOQ,4O,4I,4LAQ
4PA PLURAL,4TAA,4TAQ,4NDAA MY HOUSE,4SHIQ,4YEUX,4NGUAE,4YUAEN,4YOQ SWIMMING,5COVER,4YUQ,4YUN,4KEUX
4PEUX,4NJEE EPOCH,4PUE,4WUE,4FEE,4VEE,4LU,4MI,4REUX,4RAE,4NGUAET,4NGA,4SHO,4SHOQ,4FU REMEDY,4NA,4PI
4LOQ,4KO,4MEN,4MA,4MAQ,4TEU,4KI,4MON,4TEN,4FAQ,4GHOM,3F KA,4U,4KU,4EE,4REE,4TAE,4NYI,4LA,4RII,4RIEE
4MEEEE,4TAA,4NDAA,4NJAEM,4M,4SUU,4SHII,4SI,4SEUX,4KYEE,4KET,4NUAE,4NU,4NJUAE,4YOQ,4SHU,4YA,4NSHA
4PEUX,4NTEE,4WUE,4PEE,4RU,4NI,4REUX,4KEN,4NGKWAEN,4NGGA,4SHO,4PUAE,4FOM,4WA,4LI,4LOQ,4KO,4MBEN,4REN
4MA,4MO,4MBAA,4TET,4KPA,4SAMBA,4VUEQ,16A40:0MRO LETTER TA,2NGI,2YO,2MIM,2BA,2DA,2A,2PHI,2KHAI,2HAO
2DAI,2CHU,2KEAAE,2OL,2MAEM,2NIN,2PA,2OO,2O,2RO,2SHI,2THEA,2EA,2WA,2E,2KO,2LAN,2LA,2HAI,2RI,2TEK
16A60:1DIGIT ZERO,2ONE,2TWO,2THREE,2FOUR,2FIVE,2SIX,2SEVEN,2EIGHT,2NINE,16A6E:1DANDA,1DOUBLE DANDA
0TANGSA LETTER OZ,2OC,2OQ,2OX,2AZ,2AC,2AQ,2AX,2VZ,2VC,2VQ,2VX,2EZ,2EC,2EQ,2EX,2IZ,2IC,2IQ,2IX,2UZ
2UC,2UQ,2UX,2AWZ,2AWC,2AWQ,2AWX,2UIZ,2UIC,2UIQ,2UIX,2FINAL NG,2LONG UEX,2SHORT UEZ,3AWX,2UEC,2UEZ
2UEQ,2UEX,2UIUZ,2UIUC,2UIUQ,2UIUX,2MZ,2MC,2MQ,2MX,2KA,2KHA,2GA,2NGA,2SA,2YA,2WA,2PA,2NYA,2PHA,2BA
2MA,2NA,2HA,2LA,2HTA,2TA,2DA,2RA,2NHA,2SHA,2CA,2TSA,2GHA,2HTTA,2THA,2XA,2FA,2DHA,2CHA,2ZA
16AC0:1DIGIT ZERO,2ONE,2TWO,2THREE,2FOUR,2FIVE,2SIX,2SEVEN,2EIGHT,2NINE
16AD0:0BASSA VAH LETTER ENNI,3KA,3SE,3FA,3MBE,3YIE,3GAH,3DHII,3KPAH,3JO,3HWAH,3WA,3ZO,3GBU,3DO,3CE
3UWU,3TO,3BA,3VU,3YEIN,3PA,3WADDA,3A,3O,3OO,3U,3EE,3E,3I,16AF0:2COMBINING HIGH TONE,3LOW TONE
3MID TONE,3LOW-MID TONE,3HIGH-LOW TONE,2FULL STOP,16B00:0PAHAWH HMONG VOWEL KEEB,3KEEV,3KIB,3KIV
3KAUB,3KAUV,3KUB,3KUV,3KEB,3KEV,3KAIB,3KAIV,3KOOB,3KOOV,3KAWB,3KAWV,3KUAB,3KUAV,3KOB,3KOV,3KIAB
3KIAV,3KAB,3KAV,3KWB,3KWV,3KAAB,3KAAV,2CONSONANT VAU,3NTSAU,3LAU,3HAU,3NLAU,3RAU,3NKAU,3QHAU,3YAU
3HLAU,3MAU,3CHAU,3NCHAU,3HNAU,3PLHAU,3NTHAU,3NAU,3AU,3XAU,3CAU,2MARK CIM TUB,4SO,4KES,4KHAV,4SUAM
4HOM,4TAUM,2SIGN VOS THOM,4TSHAB CEEB,3CIM CHEEM,3VOS THIAB,4FEEM,3XYEEM NTXIV,4RHO,4TOV,4FAIB
3VOS SEEV,3MEEJ SUAB,3VOS NRUA,3IB YAM,3XAUS,3CIM TSOV ROG,16B50:2DIGIT ZERO,3ONE,3TWO,3THREE,3FOUR
3FIVE,3SIX,3SEVEN,3EIGHT,3NINE,16B5B:2NUMBER TENS,3HUNDREDS,3TEN THOUSANDS,3MILLIONS
3HUNDRED MILLIONS,3TEN BILLIONS,3TRILLIONS,16B63:2SIGN VOS LUB,3XYOO,3HLI,3THIRD-STAGE HLI
3ZWJ THAJ,3HNUB,3NQIG,3XIAB,3NTUJ,3AV,3TXHEEJ CEEV,3MEEJ TSEEB,3TAU,3LOS,3MUS
3CIM HAIS LUS NTOG NTOG,4CUAM TSHOOJ,4TXWV,4TXWV CHWV,4PUB DAWB,4NRES TOS,16B7D:2CLAN SIGN TSHEEJ
4YEEG,4LIS,4LAUJ,4XYOOJ,4KOO,4HAWJ,4MUAS,4THOJ,4TSAB,4PHAB,4KHAB,4HAM,4VAJ,4FAJ,4YAJ,4TSWB,4KWM
4VWJ,16E40:0MEDEFAIDRIN CAPITAL LETTER M,3S,3V,3W,3ATIU,3Z,3KP,3P,3T,3G,3F,3I,3K,3A,3J,3E,3B,3C,3U
3YU,3L,3Q,3HP,3NY,3X,3D,3OE,3N,3R,3O,3AI,3Y,1SMALL LETTER M,3S,3V,3W,3ATIU,3Z,3KP,3P,3T,3G,3F,3I,3K
3A,3J,3E,3B,3C,3U,3YU,3L,3Q,3HP,3NY,3X,3D,3OE,3N,3R,3O,3AI,3Y,1DIGIT ZERO,2ONE,2TWO,2THREE,2FOUR
2FIVE,2SIX,2SEVEN,2EIGHT,2NINE,1NUMBER TEN,2ELEVEN,2TWELVE,2THIRTEEN,2FOURTEEN,2FIFTEEN,2SIXTEEN
2SEVENTEEN,2EIGHTEEN,2NINETEEN,1DIGIT ONE ALTERNATE FORM,2TWO ALTERNATE FORM,2THREE ALTERNATE FORM
1COMMA,1FULL STOP,1SYMBOL AIVA,1EXCLAMATION OH,16F00:0MIAO LETTER PA,2BA,2YI PA,2PLA,2MA,2MHA
2ARCHAIC MA,2FA,2VA,2VFA,2TA,2DA,2YI TTA,3TA,2TTA,2DDA,2NA,2NHA,2YI NNA,2ARCHAIC NA,2NNA,2NNHA,2LA
2LYA,2LHA,2LHYA,2TLHA,2DLHA,2TLHYA,2DLHYA,2KA,2GA,2YI KA,2QA,2QGA,2NGA,2NGHA,2ARCHAIC NGA,2HA,2XA
2GHA,2GHHA,2TSSA,2DZZA,2NYA,2NYHA,2TSHA,2DZHA,2YI TSHA,3DZHA,2REFORMED TSHA,2SHA,2SSA,2ZHA,2ZSHA
2TSA,2DZA,2YI TSA,2SA,2ZA,2ZSA,2ZZA,2ZZSA,2ARCHAIC ZZA,2ZZYA,2ZZSYA,2WA,2AH,2HHA,2BRI,2SYI,2DZYI
2TE,2TSE,2RTE,16F4F:1SIGN CONSONANT MODIFIER BAR,1LETTER NASALIZATION,1SIGN ASPIRATION
2REFORMED VOICING,3ASPIRATION,1VOWEL SIGN A,3AA,3AHH,3AN,3ANG,3O,3OO,3WO,3W,3E,3EN,3ENG,3OEY,3I,3IA
3IAN,3IANG,3IO,3IE,3II,3IU,3ING,3U,3UA,3UAN,3UANG,3UU,3UEI,3UNG,3Y,3YI,3AE,3AEE,3ERR,3ROUNDED ERR
3ER,3ROUNDED ER,3AI,3EI,3AU,3OU,3N,3NG,3UOG,3YUI,3OG,3OER,3VW,3IG,3EA,3IONG,3UI,16F8F:1TONE RIGHT
2TOP RIGHT,2ABOVE,2BELOW,1LETTER TONE-2,33,34,35,36,37,38,2REFORMED TONE-1,42,44,45,46,48
16FE0:0TANGUT ITERATION MARK,0NUSHU ITERATION MARK,0OLD CHINESE HOOK MARK,2ITERATION MARK
0KHITAN SMALL SCRIPT FILLER,16FF0:0VIETNAMESE ALTERNATE READING MARK CA,4NHAY
18800:0TANGUT COMPONENT-001,2002,2003,2004,2005,2006,2007,2008,2009,2010,2011,2012,2013,2014,2015
2016,2017,2018,2019,2020,2021,2022,2023,2024,2025,2026,2027,2028,2029,2030,2031,2032,2033,2034,2035
2036,2037,2038,2039,2040,2041,2042,2043,2044,2045,2046,2047,2048,2049,2050,2051,2052,2053,2054,2055
2056,2057,2058,2059,2060,2061,2062,2063,2064,2065,2066,2067,2068,2069,2070,2071,2072,2073,2074,2075
2076,2077,2078,2079,2080,2081,2082,2083,2084,2085,2086,2087,2088,2089,2090,2091,2092,2093,2094,2095
2096,2097,2098,2099,2100,2101,2102,2103,2104,2105,2106,2107,2108,2109,2110,2111,2112,2113,2114,2115
2116,2117,2118,2119,2120,2121,2122,2123,2124,2125,2126,2127,2128,2129,2130,2131,2132,2133,2134,2135
2136,2137,2138,2139,2140,2141,2142,2143,2144,2145,2146,2147,2148,2149,2150,2151,2152,2153,2154,2155
2156,2157,2158,2159,2160,2161,2162,2163,2164,2165,2166,2167,2168,2169,2170,2171,2172,2173,2174,2175
2176,2177,2178,2179,2180,2181,2182,2183,2184,2185,2186,2187,2188,2189,2190,2191,2192,2193,2194,2195
2196,2197,2198,2199,2200,2201,2202,2203,2204,2205,2206,2207,2208,2209,2210,2211,2212,2213,2214,2215
2216,2217,2218,2219,2220,2221,2222,2223,2224,2225,2226,2227,2228,2229,2230,2231,2232,2233,2234,2235
2236,2237,2238,2239,2240,2241,2242,2243,2244,2245,2246,2247,2248,2249,2250,2251,2252,2253,2254,2255
2256,2257,2258,2259,2260,2261,2262,2263,2264,2265,2266,2267,2268,2269,2270,2271,2272,2273,2274,2275
2276,2277,2278,2279,2280,2281,2282,2283,2284,2285,2286,2287,2288,2289,2290,2291,2292,2293,2294,2295
2296,2297,2298,2299,2300,2301,2302,2303,2304,2305,2306,2307,2308,2309,2310,2311,2312,2313,2314,2315
2316,2317,2318,2319,2320,2321,2322,2323,2324,2325,2326,2327,2328,2329,2330,2331,2332,2333,2334,2335
2336,2337,2338,2339,2340,2341,2342,2343,2344,2345,2346,2347,2348,2349,2350,2351,2352,2353,2354,2355
2356,2357,2358,2359,2360,2361,2362,2363,2364,2365,2366,2367,2368,2369,2370,2371,2372,2373,2374,2375
2376,2377,2378,2379,2380,2381,2382,2383,2384,2385,2386,2387,2388,2389,2390,2391,2392,2393,2394,2395
2396,2397,2398,2399,2400,2401,2402,2403,2404,2405,2406,2407,2408,2409,2410,2411,2412,2413,2414,2415
2416,2417,2418,2419,2420,2421,2422,2423,2424,2425,2426,2427,2428,2429,2430,2431,2432,2433,2434,2435
2436,2437,2438,2439,2440,2441,2442,2443,2444,2445,2446,2447,2448,2449,2450,2451,2452,2453,2454,2455
2456,2457,2458,2459,2460,2461,2462,2463,2464,2465,2466,2467,2468,2469,2470,2471,2472,2473,2474,2475
2476,2477,2478,2479,2480,2481,2482,2483,2484,2485,2486,2487,2488,2489,2490,2491,2492,2493,2494,2495
2496,2497,2498,2499,2500,2501,2502,2503,2504,2505,2506,2507,2508,2509,2510,2511,2512,2513,2514,2515
2516,2517,2518,2519,2520,2521,2522,2523,2524,2525,2526,2527,2528,2529,2530,2531,2532,2533,2534,2535
2536,2537,2538,2539,2540,2541,2542,2543,2544,2545,2546,2547,2548,2549,2550,2551,2552,2553,2554,2555
2556,2557,2558,2559,2560,2561,2562,2563,2564,2565,2566,2567,2568,2569,2570,2571,2572,2573,2574,2575
2576,2577,2578,2579,2580,2581,2582,2583,2584,2585,2586,2587,2588,2589,2590,2591,2592,2593,2594,2595
2596,2597,2598,2599,2600,2601,2602,2603,2604,2605,2606,2607,2608,2609,2610,2611,2612,2613,2614,2615
2616,2617,2618,2619,2620,2621,2622,2623,2624,2625,2626,2627,2628,2629,2630,2631,2632,2633,2634,2635
2636,2637,2638,2639,2640,2641,2642,2643,2644,2645,2646,2647,2648,2649,2650,2651,2652,2653,2654,2655
2656,2657,2658,2659,2660,2661,2662,2663,2664,2665,2666,2667,2668,2669,2670,2671,2672,2673,2674,2675
2676,2677,2678,2679,2680,2681,2682,2683,2684,2685,2686,2687,2688,2689,2690,2691,2692,2693,2694,2695
2696,2697,2698,2699,2700,2701,2702,2703,2704,2705,2706,2707,2708,2709,2710,2711,2712,2713,2714,2715
2716,2717,2718,2719,2720,2721,2722,2723,2724,2725,2726,2727,2728,2729,2730,2731,2732,2733,2734,2735
2736,2737,2738,2739,2740,2741,2742,2743,2744,2745,2746,2747,2748,2749,2750,2751,2752,2753,2754,2755
2756,2757,2758,2759,2760,2761,2762,2763,2764,2765,2766,2767,2768
0KHITAN SMALL SCRIPT CHARACTER-18B00,418B01,418B02,418B03,418B04,418B05,418B06,418B07,418B08,418B09
418B0A,418B0B,418B0C,418B0D,418B0E,418B0F,418B10,418B11,418B12,418B13,418B14,418B15,418B16,418B17
418B18,418B19,418B1A,418B1B,418B1C,418B1D,418B1E,418B1F,418B20,418B21,418B22,418B23,418B24,418B25
418B26,418B27,418B28,418B29,418B2A,418B2B,418B2C,418B2D,418B2E,418B2F,418B30,418B31,418B32,418B33
418B34,418B35,418B36,418B37,418B38,418B39,418B3A,418B3B,418B3C,418B3D,418B3E,418B3F,418B40,418B41
418B42,418B43,418B44,418B45,418B46,418B47,418B48,418B49,418B4A,418B4B,418B4C,418B4D,418B4E,418B4F
418B50,418B51,418B52,418B53,418B54,418B55,418B56,418B57,418B58,418B59,418B5A,418B5B,418B5C,418B5D
418B5E,418B5F,418B60,418B61,418B62,418B63,418B64,418B65,418B66,418B67,418B68,418B69,418B6A,418B6B
418B6C,418B6D,418B6E,418B6F,418B70,418B71,418B72,418B73,418B74,418B75,418B76,418B77,418B78,418B79
418B7A,418B7B,418B7C,418B7D,418B7E,418B7F,418B80,418B81,418B82,418B83,418B84,418B85,418B86,418B87
418B88,418B89,418B8A,418B8B,418B8C,418B8D,418B8E,418B8F,418B90,418B91,418B92,418B93,418B94,418B95
418B96,418B97,418B98,418B99,418B9A,418B9B,418B9C,418B9D,418B9E,418B9F,418BA0,418BA1,418BA2,418BA3
418BA4,418BA5,418BA6,418BA7,418BA8,418BA9,418BAA,418BAB,418BAC,418BAD,418BAE,418BAF,418BB0,418BB1
418BB2,418BB3,418BB4,418BB5,418BB6,418BB7,418BB8,418BB9,418BBA,418BBB,418BBC,418BBD,418BBE,418BBF
418BC0,418BC1,418BC2,418BC3,418BC4,418BC5,418BC6,418BC7,418BC8,418BC9,418BCA,418BCB,418BCC,418BCD
418BCE,418BCF,418BD0,418BD1,418BD2,418BD3,418BD4,418BD5,418BD6,418BD7,418BD8,418BD9,418BDA,418BDB
418BDC,418BDD,418BDE,418BDF,418BE0,418BE1,418BE2,418BE3,418BE4,418BE5,418BE6,418BE7,418BE8,418BE9
418BEA,418BEB,418BEC,418BED,418BEE,418BEF,418BF0,418BF1,418BF2,418BF3,418BF4,418BF5,418BF6,418BF7
418BF8,418BF9,418BFA,418BFB,418BFC,418BFD,418BFE,418BFF,418C00,418C01,418C02,418C03,418C04,418C05
418C06,418C07,418C08,418C09,418C0A,418C0B,418C0C,418C0D,418C0E,418C0F,418C10,418C11,418C12,418C13
418C14,418C15,418C16,418C17,418C18,418C19,418C1A,418C1B,418C1C,418C1D,418C1E,418C1F,418C20,418C21
418C22,418C23,418C24,418C25,418C26,418C27,418C28,418C29,418C2A,418C2B,418C2C,418C2D,418C2E,418C2F
418C30,418C31,418C32,418C33,418C34,418C35,418C36,418C37,418C38,418C39,418C3A,418C3B,418C3C,418C3D
418C3E,418C3F,418C40,418C41,418C42,418C43,418C44,418C45,418C46,418C47,418C48,418C49,418C4A,418C4B
418C4C,418C4D,418C4E,418C4F,418C50,418C51,418C52,418C53,418C54,418C55,418C56,418C57,418C58,418C59
418C5A,418C5B,418C5C,418C5D,418C5E,418C5F,418C60,418C61,418C62,418C63,418C64,418C65,418C66,418C67
418C68,418C69,418C6A,418C6B,418C6C,418C6D,418C6E,418C6F,418C70,418C71,418C72,418C73,418C74,418C75
418C76,418C77,418C78,418C79,418C7A,418C7B,418C7C,418C7D,418C7E,418C7F,418C80,418C81,418C82,418C83
418C84,418C85,418C86,418C87,418C88,418C89,418C8A,418C8B,418C8C,418C8D,418C8E,418C8F,418C90,418C91
418C92,418C93,418C94,418C95,418C96,418C97,418C98,418C99,418C9A,418C9B,418C9C,418C9D,418C9E,418C9F
418CA0,418CA1,418CA2,418CA3,418CA4,418CA5,418CA6,418CA7,418CA8,418CA9,418CAA,418CAB,418CAC,418CAD
418CAE,418CAF,418CB0,418CB1,418CB2,418CB3,418CB4,418CB5,418CB6,418CB7,418CB8,418CB9,418CBA,418CBB
418CBC,418CBD,418CBE,418CBF,418CC0,418CC1,418CC2,418CC3,418CC4,418CC5,418CC6,418CC7,418CC8,418CC9
418CCA,418CCB,418CCC,418CCD,418CCE,418CCF,418CD0,418CD1,418CD2,418CD3,418CD4,418CD5
1AFF0:0KATAKANA LETTER MINNAN TONE-2,43,44,45,1AFF5:47,48,3NASALIZED TONE-1,52,53,54,55,1AFFD:57,58
1B000:2ARCHAIC E,0HIRAGANA LETTER ARCHAIC YE,0HENTAIGANA LETTER A-1,32,33,3WO,2I-1,32,33,34,2U-1,32
33,34,35,2E-2,33,34,35,36,2O-1,32,33,2KA-1,32,33,34,35,36,37,38,39,310,311,3KE,2KI-1,32,33,34,35,36
37,38,2KU-1,32,33,34,35,36,37,2KE-1,32,33,34,35,36,2KO-1,32,33,3KI,2SA-1,32,33,34,35,36,37,38,2SI-1
32,33,34,35,36,2SU-1,32,33,34,35,36,37,38,2SE-1,32,33,34,35,2SO-1,32,33,34,35,36,37,2TA-1,32,33,34
2TI-1,32,33,34,35,36,37,2TU-1,32,33,34,3TO,2TE-1,32,33,34,35,36,37,38,39,2TO-1,32,33,34,35,36,3RA
2NA-1,32,33,34,35,36,37,38,39,2NI-1,32,33,34,35,36,37,3TE,2NU-1,32,33,2NE-1,32,33,34,35,36,3KO
2NO-1,32,33,34,35,2HA-1,32,33,34,35,36,37,38,39,310,311,2HI-1,32,33,34,35,36,37,2HU-1,32,33,2HE-1
32,33,34,35,36,37,2HO-1,32,33,34,35,36,37,38,2MA-1,32,33,34,35,36,37,2MI-1,32,33,34,35,36,37,2MU-1
32,33,34,2ME-1,32,3MA,2MO-1,32,33,34,35,36,2YA-1,32,33,34,35,3YO,2YU-1,32,33,34,2YO-1,32,33,34,35
36,2RA-1,32,33,34,2RI-1,32,33,34,35,36,37,2RU-1,32,33,34,35,36,2RE-1,32,33,34,2RO-1,32,33,34,35,36
2WA-1,32,33,34,35,2WI-1,32,33,34,35,2WE-1,32,33,34,2WO-1,32,33,34,35,36,37,2N-MU-MO-1,52
0HIRAGANA LETTER ARCHAIC WU,0KATAKANA LETTER ARCHAIC YI,3YE,3WU,1B150:0HIRAGANA LETTER SMALL WI,3WE
3WO,1B164:0KATAKANA LETTER SMALL WI,3WE,3WO,3N,1B170:0NUSHU CHARACTER-1B170,21B171,21B172,21B173
21B174,21B175,21B176,21B177,21B178,21B179,21B17A,21B17B,21B17C,21B17D,21B17E,21B17F,21B180,21B181
21B182,21B183,21B184,21B185,21B186,21B187,21B188,21B189,21B18A,21B18B,21B18C,21B18D,21B18E,21B18F
21B190,21B191,21B192,21B193,21B194,21B195,21B196,21B197,21B198,21B199,21B19A,21B19B,21B19C,21B19D
21B19E,21B19F,21B1A0,21B1A1,21B1A2,21B1A3,21B1A4,21B1A5,21B1A6,21B1A7,21B1A8,21B1A9,21B1AA,21B1AB
21B1AC,21B1AD,21B1AE,21B1AF,21B1B0,21B1B1,21B1B2,21B1B3,21B1B4,21B1B5,21B1B6,21B1B7,21B1B8,21B1B9
21B1BA,21B1BB,21B1BC,21B1BD,21B1BE,21B1BF,21B1C0,21B1C1,21B1C2,21B1C3,21B1C4,21B1C5,21B1C6,21B1C7
21B1C8,21B1C9,21B1CA,21B1CB,21B1CC,21B1CD,21B1CE,21B1CF,21B1D0,21B1D1,21B1D2,21B1D3,21B1D4,21B1D5
21B1D6,21B1D7,21B1D8,21B1D9,21B1DA,21B1DB,21B1DC,21B1DD,21B1DE,21B1DF,21B1E0,21B1E1,21B1E2,21B1E3
21B1E4,21B1E5,21B1E6,21B1E7,21B1E8,21B1E9,21B1EA,21B1EB,21B1EC,21B1ED,21B1EE,21B1EF,21B1F0,21B1F1
21B1F2,21B1F3,21B1F4,21B1F5,21B1F6,21B1F7,21B1F8,21B1F9,21B1FA,21B1FB,21B1FC,21B1FD,21B1FE,21B1FF
21B200,21B201,21B202,21B203,21B204,21B205,21B206,21B207,21B208,21B209,21B20A,21B20B,21B20C,21B20D
21B20E,21B20F,21B210,21B211,21B212,21B213,21B214,21B215,21B216,21B217,21B218,21B219,21B21A,21B21B
21B21C,21B21D,21B21E,21B21F,21B220,21B221,21B222,21B223,21B224,21B225,21B226,21B227,21B228,21B229
21B22A,21B22B,21B22C,21B22D,21B22E,21B22F,21B230,21B231,21B232,21B233,21B234,21B235,21B236,21B237
21B238,21B239,21B23A,21B23B,21B23C,21B23D,21B23E,21B23F,21B240,21B241,21B242,21B243,21B244,21B245
21B246,21B247,21B248,21B249,21B24A,21B24B,21B24C,21B24D,21B24E,21B24F,21B250,21B251,21B252,21B253
21B254,21B255,21B256,21B257,21B258,21B259,21B25A,21B25B,21B25C,21B25D,21B25E,21B25F,21B260,21B261
21B262,21B263,21B264,21B265,21B266,21B267,21B268,21B269,21B26A,21B26B,21B26C,21B26D,21B26E,21B26F
21B270,21B271,21B272,21B273,21B274,21B275,21B276,21B277,21B278,21B279,21B27A,21B27B,21B27C,21B27D
21B27E,21B27F,21B280,21B281,21B282,21B283,21B284,21B285,21B286,21B287,21B288,21B289,21B28A,21B28B
21B28C,21B28D,21B28E,21B28F,21B290,21B291,21B292,21B293,21B294,21B295,21B296,21B297,21B298,21B299
21B29A,21B29B,21B29C,21B29D,21B29E,21B29F,21B2A0,21B2A1,21B2A2,21B2A3,21B2A4,21B2A5,21B2A6,21B2A7
21B2A8,21B2A9,21B2AA,21B2AB,21B2AC,21B2AD,21B2AE,21B2AF,21B2B0,21B2B1,21B2B2,21B2B3,21B2B4,21B2B5
21B2B6,21B2B7,21B2B8,21B2B9,21B2BA,21B2BB,21B2BC,21B2BD,21B2BE,21B2BF,21B2C0,21B2C1,21B2C2,21B2C3
21B2C4,21B2C5,21B2C6,21B2C7,21B2C8,21B2C9,21B2CA,21B2CB,21B2CC,21B2CD,21B2CE,21B2CF,21B2D0,21B2D1
21B2D2,21B2D3,21B2D4,21B2D5,21B2D6,21B2D7,21B2D8,21B2D9,21B2DA,21B2DB,21B2DC,21B2DD,21B2DE,21B2DF
21B2E0,21B2E1,21B2E2,21B2E3,21B2E4,21B2E5,21B2E6,21B2E7,21B2E8,21B2E9,21B2EA,21B2EB,21B2EC,21B2ED
21B2EE,21B2EF,21B2F0,21B2F1,21B2F2,21B2F3,21B2F4,21B2F5,21B2F6,21B2F7,21B2F8,21B2F9,21B2FA,21B2FB
1BC00:0DUPLOYAN LETTER H,2X,2P,2T,2F,2K,2L,2B,2D,2V,2G,2R,2P N,2D S,2F N,2K M,2R S,2TH,2SLOAN DH
2DH,2KK,2SLOAN J,2HL,2LH,2RH,2M,2N,2J,2S,2M N,2N M,2J M,2S J,2M WITH DOT,2N WITH DOT,2J WITH DOT
4DOTS INSIDE AND ABOVE,2S WITH DOT,4DOT BELOW,2M S,2N S,2J S,2S S,2M N S,2N M S,2J M S,2S J S
2J S WITH DOT,3N,3N S,2S T,3T R,3P,3P R,2T S,3R S,2W,2WH,2W R,2S N,3M,2K R S,2G R S,2S K,3K R,2A
2SLOAN OW,2OA,2O,2AOU,2I,2E,2IE,2SHORT I,2UI,2EE,2SLOAN EH,2ROMANIAN I,2SLOAN EE,2LONG I,2YE,2U,2EU
2XW,2U N,2LONG U,2ROMANIAN U,2UH,2SLOAN U,2OOH,2OW,2OU,2WA,2WO,2WI,2WEI,2WOW,2NASAL U,3O,3I,3A
2PERNIN AN,3AM,2SLOAN EN,3AN,3ON,2VOCALIC M,1BC70:1AFFIX LEFT HORIZONTAL SECANT
2MID HORIZONTAL SECANT,2RIGHT HORIZONTAL SECANT,2LOW VERTICAL SECANT,2MID VERTICAL SECANT
2HIGH VERTICAL SECANT,2ATTACHED SECANT,3LEFT-TO-RIGHT SECANT,3TANGENT,3TAIL,3E HOOK,3I HOOK
3TANGENT HOOK,1BC80:2HIGH ACUTE,3TIGHT ACUTE,3GRAVE,3LONG GRAVE,3DOT,3CIRCLE,3LINE,3WAVE,3VERTICAL
1BC90:2LOW ACUTE,3TIGHT ACUTE,3GRAVE,3LONG GRAVE,3DOT,3CIRCLE,3LINE,3WAVE,3VERTICAL,3ARROW
1BC9C:1SIGN O WITH CROSS,1THICK LETTER SELECTOR,1DOUBLE MARK,1PUNCTUATION CHINOOK FULL STOP
0SHORTHAND FORMAT LETTER OVERLAP,2CONTINUING OVERLAP,2DOWN STEP,2UP STEP
1CF00:0ZNAMENNY COMBINING MARK GORAZDO NIZKO S KRYZHEM ON LEFT,3NIZKO S KRYZHEM ON LEFT
3TSATA ON LEFT,3GORAZDO NIZKO ON LEFT,3NIZKO ON LEFT,3SREDNE ON LEFT,3MALO POVYSHE ON LEFT
3POVYSHE ON LEFT,3VYSOKO ON LEFT,3MALO POVYSHE S KHOKHLOM ON LEFT,3POVYSHE S KHOKHLOM ON LEFT
3VYSOKO S KHOKHLOM ON LEFT,3GORAZDO NIZKO S KRYZHEM ON RIGHT,3NIZKO S KRYZHEM ON RIGHT
3TSATA ON RIGHT,3GORAZDO NIZKO ON RIGHT,3NIZKO ON RIGHT,3SREDNE ON RIGHT,3MALO POVYSHE ON RIGHT
3POVYSHE ON RIGHT,3VYSOKO ON RIGHT,3MALO POVYSHE S KHOKHLOM ON RIGHT,3POVYSHE S KHOKHLOM ON RIGHT
3VYSOKO S KHOKHLOM ON RIGHT,3TSATA S KRYZHEM,3MALO POVYSHE S KRYZHEM,3STRANNO MALO POVYSHE
3POVYSHE S KRYZHEM,4STRANNO,3VYSOKO S KRYZHEM,3MALO POVYSHE STRANNO,3GORAZDO VYSOKO,3ZELO,3ON
3RAVNO,3TIKHAYA,3BORZAYA,3UDARKA,3PODVERTKA,3LOMKA,3KUPNAYA,3KACHKA,3ZEVOK,3SKOBA,3RAZSEKA
3KRYZH ON LEFT,1CF30:2TONAL RANGE MARK MRACHNO,5SVETLO,5TRESVETLO,2MARK ZADERZHKA
3DEMESTVENNY ZADERZHKA,3OTSECHKA,3PODCHASHIE,3PODCHASHIE WITH VERTICAL STROKE,3CHASHKA
3CHASHKA POLNAYA,3OBLACHKO,3SOROCHYA NOZHKA,3TOCHKA,3DVOETOCHIE,2ATTACHING VERTICAL OMET
2MARK CURVED OMET,3KRYZH,2LOWER TONAL RANGE INDICATOR,1PRIZNAK MODIFIER LEVEL-2,43,3DIRECTION FLIP
3KRYZH,3ROG,1CF50:1NEUME KRYUK,2KRYUK TIKHY,2PARAKLIT,2DVA V CHELNU,2KLYUCH,2ZANOZHEK,2STOPITSA
2STOPITSA S OCHKOM,2PEREVODKA,2PEREVODKA NEPOSTOYANNAYA,2STOPITSA WITH SOROCHYA NOZHKA,2CHELYUSTKA
2PALKA,2ZAPYATAYA,2GOLUBCHIK BORZY,3TIKHY,3MRACHNY,3SVETLY,3TRESVETLY,2VRAKHIYA PROSTAYA,3MRACHNAYA
3SVETLAYA,3TRESVETLAYA,3KLYUCHEVAYA PROSTAYA,4MRACHNAYA,4SVETLAYA,4TRESVETLAYA,2DOUBLE ZAPYATAYA
2REVERSED CHELYUSTKA,2DERBITSA,2KHAMILO,2CHASHKA,2PODCHASHIE,2SKAMEYTSA MRACHNAYA,3SVETLAYA
3TRESVETLAYA,3TIKHAYA,2DEMESTVENNY KLYUCH,2SKAMEYTSA KLYUCHEVAYA SVETLAYA,3KLYUCHENEPOSTOYANNAYA
3KLYUCHEVAYA TIKHAYA,3DVOECHELNAYA PROSTAYA,4SVETLAYA,4NEPOSTOYANNAYA,4KLYUCHEVAYA,2SLOZHITIE
2SLOZHITIE S ZAPYATOY,3ZAKRYTOE,3S KRYZHEM,2KRYZH,2ROG,2FITA,2KOBYLA,2ZMEYTSA,2STATYA
2STATYA S ZAPYATOY,4KRYZHEM,4ZAPYATOY I KRYZHEM,4KRYZHEM I ZAPYATOY,3ZAKRYTAYA
3ZAKRYTAYA S ZAPYATOY,3S ROGOM,4DVUMYA ZAPYATYMI,4ZAPYATOY I PODCHASHIEM,2POLKULIZMY
2STATYA NEPOSTOYANNAYA,2STRELA PROSTAYA,3MRACHNOTIKHAYA,3KRYZHEVAYA,3POLUPOVODNAYA,3POVODNAYA
3NEPOSTOYANNAYA,3KLYUCHEPOVODNAYA,3KLYUCHENEPOSTOYANNAYA,3TIKHAYA PUTNAYA,3DVOECHELNAYA
3DVOECHELNOKRYZHEVAYA,3DVOECHELNOPOVODNAYA,3DVOECHELNAYA KLYUCHEVAYA
3DVOECHELNOPOVODNAYA KLYUCHEVAYA,3GROMNAYA WITH SINGLE ZAPYATAYA
3GROMOPOVODNAYA WITH SINGLE ZAPYATAYA,3GROMNAYA,3GROMOPOVODNAYA
3GROMOPOVODNAYA WITH DOUBLE ZAPYATAYA,3GROMOKRYZHEVAYA,3GROMOKRYZHEVAYA POVODNAYA,2MECHIK
2MECHIK POVODNY,3KLYUCHEVOY,3KLYUCHEPOVODNY,3KLYUCHENEPOSTOYANNY,2STRELA TRYASOGLASNAYA
3TRYASOPOVODNAYA,3TRYASOSTRELNAYA,2OSOKA,2OSOKA SVETLAYA,3TRESVETLAYA,3KRYUKOVAYA SVETLAYA
3KLYUCHEVAYA SVETLAYA,4NEPOSTOYANNAYA,2STRELA KRYUKOVAYA,3KRYUKOVAYA POVODNAYA
4GROMNAYA WITH SINGLE ZAPYATAYA,4GROMOPOVODNAYA WITH SINGLE ZAPYATAYA,4GROMNAYA,4GROMOPOVODNAYA
4GROMOPOVODNAYA WITH DOUBLE ZAPYATAYA,4GROMOKRYZHEVAYA,4GROMOKRYZHEVAYA POVODNAYA,4TRYASKA,2KUFISMA
2OBLAKO,2DUDA,2NEMKA,2PAUK"

end SplitExport.Text.Names
